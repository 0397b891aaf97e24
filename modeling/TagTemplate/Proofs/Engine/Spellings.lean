import TagTemplate.Proofs.Builtin.Relocation
import TagTemplate.Proofs.Condition.RawText
import TagTemplate.Proofs.Engine.Relocation

/-!
# Two spellings of a condition

A branch has its condition in an attribute, or else its whole attribute text is the condition. The
two spellings come to the same (`Engine.render_spellings`), as far as the text can be read as
attributes at all and none of them is named `condition`. With such a name in it the text is not the
condition any more (`Engine.spellings_part`).
-/

namespace TagTemplate

open Attributes

/-! ## The sources -/

/-- A branch with its condition as it is. -/
def rawSpelling (condition body : String) : String :=
  "<cfif " ++ condition ++ ">" ++ body ++ "</cfif>"

/-- The same branch with its condition in an attribute, where each double quote is doubled. -/
def quotedSpelling (condition body : String) : String :=
  "<cfif condition=\"" ++ String.ofList (doubledBy '"' condition.toList) ++ "\">" ++ body ++ "</cfif>"

/-- The attributes of the second spelling. -/
def quotedAttributes (condition : String) : Attributes := .ofList [("condition", condition)]

variable {condition body : String}

theorem toList_quotedAttributes (condition : String) :
    (quotedAttributes condition).toList = [("condition", condition)] := by
  have hname : Text.foldAscii "condition" = "condition" := by decide +kernel
  show [(Text.foldAscii "condition", condition)] = _
  rw [hname]

theorem isTagName_cfif : IsTagName "cfif" :=
  ⟨⟨by decide +kernel, by decide +kernel⟩, by decide +kernel⟩

theorem rawSpelling_eq (condition body : String) : rawSpelling condition body =
    String.ofList (blockSource "cfif" ("cfif".toList ++ ' ' :: condition.toList) body.toList) := by
  apply String.toList_inj.mp
  simp [rawSpelling, blockSource, closingSource, closingInside]

theorem quotedSpelling_eq (condition body : String) : quotedSpelling condition body =
    String.ofList (blockSource "cfif" (openingInside "cfif" (quotedAttributes condition))
      body.toList) := by
  apply String.toList_inj.mp
  unfold quotedSpelling blockSource openingInside closingSource closingInside spaced printEntry
  rw [toList_quotedAttributes]
  simp only [String.toList_append, String.toList_ofList]
  simp

/-- A doubled mark is no line feed. -/
theorem count_doubledBy (value : List Char) :
    (doubledBy '"' value).count '\n' = value.count '\n' := by
  induction value with
  | nil => rfl
  | cons c rest ih =>
    rw [doubledBy, List.flatMap_cons, List.count_append, List.count_cons]
    show _ + (doubledBy '"' rest).count '\n' = _
    rw [ih]
    by_cases hc : c = '"'
    · rw [hc]
      simp
    · rw [if_neg hc, List.count_singleton, Nat.add_comm]

theorem count_quoted (condition : String) :
    (openingInside "cfif" (quotedAttributes condition)).count '\n' =
      ("cfif".toList ++ ' ' :: condition.toList).count '\n' := by
  simp [openingInside, toList_quotedAttributes, spaced, printEntry, count_doubledBy]

/-! ## The tags -/

/-- The guards of the two spellings ask the same condition and blame the same line. -/
theorem conditionGuard_spellings {attributes : Attributes}
    (hname : attributes.contains "condition" = false) (raw : String) {span span' : Span}
    (hline : span'.line = span.line) (body body' : Option (List Node)) :
    Builtin.conditionGuard ⟨⟨"cfif", quotedAttributes condition, raw, span'⟩, body'⟩ =
      Builtin.conditionGuard ⟨⟨"cfif", attributes, Text.trim condition, span⟩, body⟩ := by
  have hraw : attributes.get? "condition" = none := by
    rw [NameMap.contains] at hname
    simpa using hname
  have hquoted : (quotedAttributes condition).get? "condition" = some condition :=
    (NameMap.empty.bindings).get?_insert_self (Text.foldAscii "condition") condition
  simp only [Builtin.conditionGuard, Builtin.conditionOf, Tag.attr?, hraw, hquoted,
    Option.getD_some, Option.getD_none, Tag.conditionHolds, Condition.evaluate_trim, hline]

/-- So the two tags are visited in the same way. -/
theorem sameVisit_spellings {r : Registry} (hbuiltin : r = Builtin.registry) (condition : String)
    {attributes : Attributes} (hname : attributes.contains "condition" = false) (raw : String)
    {span span' : Span} (hline : span'.line = span.line) (children children' : List Node) :
    r.SameVisit ⟨⟨"cfif", attributes, Text.trim condition, span⟩, some children⟩
      ⟨⟨"cfif", quotedAttributes condition, raw, span'⟩, some children'⟩ where
  name := rfl
  line := hline
  body := rfl
  hooks h hget := by
    have hif : Builtin.registry.get? "cfif" = some Builtin.ifBranch := rfl
    rw [hbuiltin, hif] at hget
    cases hget
    exact ⟨conditionGuard_spellings hname raw hline _ _, rfl, rfl, rfl⟩

namespace Engine

variable {engine : Engine}

/-! ## The trees -/

theorem table_cfif : Builtin.registry.table "cfif" = some ⟨"cfif", true⟩ := rfl

/-- The first spelling is a block around the nodes of the body, if its attribute text can be
read. -/
theorem parse_rawSpelling (hbuiltin : engine.registry = Builtin.registry)
    {tokens : List Condition.Token} (htokens : Condition.tokenize condition = .ok tokens)
    (hmark : '#' ∉ outsideQuotes none condition.toList)
    (hend : '>' ∉ outsideQuotes none condition.toList) {attributes : Attributes}
    (hattributes : Attributes.parse (Text.trim condition) = .ok attributes) {depth : Nat}
    {template : Template} (hbody : Template.parse engine.registry.table depth body = .ok template)
    (hroom : depth < engine.limits.maxDepth) :
    ∃ (span : Span) (children : List Node), span.line = 1 ∧
      engine.parse (rawSpelling condition body) =
        .ok ⟨[.block ⟨"cfif", attributes, Text.trim condition, span⟩ children]⟩ ∧
      relocateAll (.down 0) children =
        relocateAll (.down (("cfif".toList ++ ' ' :: condition.toList).count '\n'))
          template.nodes := by
  have hclosed := (Condition.endsOutside_of_readTokens htokens hmark).closed
  have hslash := (Condition.endsOutside_trim htokens hmark).noSlash
  have hspace : Hidden [' '] := hidden_of_plain (List.forall_mem_singleton.mpr (by decide))
  have hhidden : Hidden ("cfif".toList ++ ' ' :: condition.toList) :=
    isTagName_cfif.hidden.append (hspace.append (hidden_of_quoteAfter hclosed hend))
  have hopens : ∀ rest, opensTag ("cfif".toList ++ ' ' :: condition.toList ++ rest) = true := by
    intro rest
    rw [List.append_assoc]
    exact opensTag_append isTagName_cfif.toIsWrittenName _
  have hblank : isTagNameChar ' ' = false := by decide +kernel
  have hkind : Token.Kind.ofTag ("cfif".toList ++ ' ' :: condition.toList) =
      .tagOpen "cfif" (Text.trim condition) false := ofTag_append isTagName_cfif hblank hslash
  rw [parse, rawSpelling_eq, hbuiltin]
  rw [hbuiltin] at hbody
  exact parse_block hhidden hopens hkind hattributes isTagName_cfif table_cfif hbody hroom

/-- So is the second one, whatever the condition. -/
theorem parse_quotedSpelling (hbuiltin : engine.registry = Builtin.registry) (condition : String)
    {depth : Nat} {template : Template}
    (hbody : Template.parse engine.registry.table depth body = .ok template)
    (hroom : depth < engine.limits.maxDepth) :
    ∃ (raw : String) (span : Span) (children : List Node), span.line = 1 ∧
      engine.parse (quotedSpelling condition body) =
        .ok ⟨[.block ⟨"cfif", quotedAttributes condition, raw, span⟩ children]⟩ ∧
      relocateAll (.down 0) children =
        relocateAll (.down (("cfif".toList ++ ' ' :: condition.toList).count '\n'))
          template.nodes := by
  have hnames : ∀ entry ∈ (quotedAttributes condition).toList, isSmallName entry.1 = true := by
    rw [toList_quotedAttributes]
    exact List.forall_mem_singleton.mpr (by decide +kernel : isSmallName "condition" = true)
  have hdistinct : ((quotedAttributes condition).toList.map Prod.fst).Nodup := by
    rw [toList_quotedAttributes]
    exact List.pairwise_singleton _ _
  have hhidden := hidden_openingInside isTagName_cfif hnames
  have hkind := ofTag_openingInside isTagName_cfif hnames
  rw [parse, quotedSpelling_eq, hbuiltin]
  rw [hbuiltin] at hbody
  rw [← count_quoted]
  exact ⟨_, parse_block hhidden (opensTag_openingInside isTagName_cfif _) hkind
    (parse_print hnames hdistinct) isTagName_cfif table_cfif hbody hroom⟩

/-! ## The renders -/

/-- The built-in tags see no more of a span than its line. -/
theorem builtin_ignoresPlaces (hbuiltin : engine.registry = Builtin.registry) :
    ∀ name h, engine.registry.get? name = some h → h.IgnoresPlaces (.down 0) := by
  rw [hbuiltin]
  exact Builtin.registry_ignoresPlaces fun _ => rfl

/-- Two blocks are rendered to the same report if their tags are visited in the same way and their
nodes stand in the same lines. -/
theorem render_block_alike (hbuiltin : engine.registry = Builtin.registry) {tag tag' : Tag}
    {children children' : List Node}
    (htags : engine.registry.SameVisit ⟨tag, some children⟩ ⟨tag', some children'⟩)
    (hchildren : relocateAll (.down 0) children' = relocateAll (.down 0) children)
    (scope : Scope) : engine.render ⟨[.block tag' children']⟩ scope =
      engine.render ⟨[.block tag children]⟩ scope := by
  have hsetting := setting_alikeElsewhere (builtin_ignoresPlaces hbuiltin)
  have hsame : engine.run ⟨[.block tag' children']⟩ (.start scope) =
      engine.run ⟨[.block tag children]⟩ (.start scope) :=
    ((Setting.block_alike hsetting htags hchildren).pass (.start scope) rfl).1
  rw [render, render, hsame]

/-- The two spellings of a condition agree. Let the text be one that conditions are read from, with
no `#` and no `>` outside of quotes, and let it hold no attribute `condition` when it is read as
attributes. If the body has a tree with room for one more open tag, both spellings have trees, and
these are rendered to the same report. -/
theorem render_spellings (hbuiltin : engine.registry = Builtin.registry)
    (hreads : (Condition.tokenize condition).isOk = true)
    (hmark : '#' ∉ outsideQuotes none condition.toList)
    (hend : '>' ∉ outsideQuotes none condition.toList) {attributes : Attributes}
    (hattributes : Attributes.parse (Text.trim condition) = .ok attributes)
    (hname : attributes.contains "condition" = false) {depth : Nat}
    (hbody : (Template.parse engine.registry.table depth body).isOk = true)
    (hroom : depth < engine.limits.maxDepth) :
    ∃ raw quoted, engine.parse (rawSpelling condition body) = .ok raw ∧
      engine.parse (quotedSpelling condition body) = .ok quoted ∧
      ∀ scope, engine.render quoted scope = engine.render raw scope := by
  cases htokens : Condition.tokenize condition with
  | error e =>
    rw [htokens] at hreads
    cases hreads
  | ok tokens =>
    cases htemplate : Template.parse engine.registry.table depth body with
    | error e =>
      rw [htemplate] at hbody
      cases hbody
    | ok template =>
      obtain ⟨span, children, hline, hraw, hchildren⟩ :=
        parse_rawSpelling hbuiltin htokens hmark hend hattributes htemplate hroom
      obtain ⟨text, span', children', hline', hquoted, hchildren'⟩ :=
        parse_quotedSpelling hbuiltin condition htemplate hroom
      refine ⟨_, _, hraw, hquoted, fun scope => ?_⟩
      have htags := sameVisit_spellings hbuiltin condition hname text (hline'.trans hline.symm)
        children children'
      exact render_block_alike hbuiltin htags (hchildren'.trans hchildren.symm) scope

/-- A condition with a `>` in quotes, around a block. -/
theorem render_spellings_of_literal :
    let condition := "x is \"a>b\""
    let body := "<cfoutput>#x#</cfoutput>"
    quotedSpelling condition body =
        "<cfif condition=\"x is \"\"a>b\"\"\"><cfoutput>#x#</cfoutput></cfif>" ∧
      ∃ raw quoted, parse {} (rawSpelling condition body) = .ok raw ∧
        parse {} (quotedSpelling condition body) = .ok quoted ∧
        ∀ scope, render {} quoted scope = render {} raw scope := by
  intro condition body
  have hattributes : Attributes.parse (Text.trim condition) =
      .ok (.ofList [("x", ""), ("is", "")]) := by decide +kernel
  have hbody : (Template.parse Builtin.registry.table 1 body).isOk = true := by decide +kernel
  refine ⟨by decide +kernel, ?_⟩
  exact render_spellings rfl (by decide +kernel) (by decide +kernel) (by decide +kernel) hattributes
    (by decide +kernel) hbody (by decide)

/-- Where the spellings part. The word `condition` is a condition, but as attribute text it is an
attribute without a value: the first spelling asks an empty condition and fails, where the second
one asks the variable. A string next to `==` is part of an unquoted value as attribute text, up to
the first blank in it, and only the second spelling parses. And a body as deep as the limit allows
fits into neither. -/
theorem spellings_part :
    let scope : Scope := .ofList [("condition", .bool true)]
    let compared := "x ==\"a b\""
    let body := "<cfoutput></cfoutput>"
    let flat : Engine := ⟨Builtin.registry, Loader.none, { maxDepth := 1 }⟩
    ((Condition.tokenize "condition").isOk = true ∧ '#' ∉ outsideQuotes none "condition".toList ∧
      '>' ∉ outsideQuotes none "condition".toList ∧ (parse {} "x").isOk = true ∧
      ∃ raw quoted, parse {} (rawSpelling "condition" "x") = .ok raw ∧
        parse {} (quotedSpelling "condition" "x") = .ok quoted ∧
        (render {} raw scope).outcome.isOk = false ∧
        (render {} quoted scope).outcome.toOption = some "x") ∧
      ((Condition.tokenize compared).isOk = true ∧ '#' ∉ outsideQuotes none compared.toList ∧
        '>' ∉ outsideQuotes none compared.toList ∧
        (parse {} (rawSpelling compared "x")).isOk = false ∧
        (parse {} (quotedSpelling compared "x")).isOk = true) ∧
      (Condition.tokenize "x").isOk = true ∧ (flat.parse body).isOk = true ∧
      (flat.parse (rawSpelling "x" body)).isOk = false ∧
      (flat.parse (quotedSpelling "x" body)).isOk = false := by
  intro scope compared body flat
  have hraw : ((parse {} (rawSpelling "condition" "x")).toOption.map fun template =>
      (render {} template scope).outcome.isOk) = some false := by decide +kernel
  have hquoted : ((parse {} (quotedSpelling "condition" "x")).toOption.map fun template =>
      (render {} template scope).outcome.toOption) = some (some "x") := by decide +kernel
  have hcompared : (Condition.tokenize compared).isOk = true ∧
      '#' ∉ outsideQuotes none compared.toList ∧ '>' ∉ outsideQuotes none compared.toList ∧
      (parse {} (rawSpelling compared "x")).isOk = false ∧
      (parse {} (quotedSpelling compared "x")).isOk = true := by
    decide +kernel
  refine ⟨⟨by decide +kernel, by decide +kernel, by decide +kernel, by decide +kernel, ?_⟩,
    hcompared, by decide +kernel, by decide +kernel, by decide +kernel, by decide +kernel⟩
  cases hparse : parse {} (rawSpelling "condition" "x") with
  | error e =>
    rw [hparse] at hraw
    cases hraw
  | ok raw =>
    cases hparse' : parse {} (quotedSpelling "condition" "x") with
    | error e =>
      rw [hparse'] at hquoted
      cases hquoted
    | ok quoted =>
      rw [hparse] at hraw
      rw [hparse'] at hquoted
      exact ⟨raw, quoted, rfl, rfl, Option.some.inj hraw, Option.some.inj hquoted⟩

end Engine

end TagTemplate
