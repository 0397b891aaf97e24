import Mathlib.Data.List.Chain
import Mathlib.Data.List.Forall2
import TagTemplate.Proofs.Source.Printed
import TagTemplate.Proofs.Tree.Shape

/-!
# Printing trees

A tree is printed node after node: text as it is, an expression between two `#` marks, a tag with
its attributes, and a block with its children between its opening and its closing tag.
`parse_source` says that parsing a printed tree gives the tree back. The new tree has the places
where its tags and interpolations stand in the print, and the attribute text as it was printed.

The proof follows the print. `acceptAll_print` says what the tree builder makes of the print of a
node in front of anything else: it adds the node, located, to the innermost open tag. A block is
opened, filled with its children, and closed again.
-/

namespace TagTemplate

open Attributes

/-! ## Which trees are printed -/

/-- A tag as a table would make it: its name is one of tags and the table resolves it to itself,
its attributes have small names that are distinct. Their values are arbitrary. -/
structure Tag.Canonical (table : TagTable) (hasBody : Bool) (tag : Tag) : Prop where
  name : IsTagName tag.name
  resolved : table tag.name = some ⟨tag.name, hasBody⟩
  attributeNames : ∀ entry ∈ tag.attributes.toList, isSmallName entry.1 = true
  distinct : (tag.attributes.toList.map Prod.fst).Nodup

/-- Two siblings are not both text. -/
def Node.Apart (left right : Node) : Prop := ¬ (left.isText = true ∧ right.isText = true)

/-- A node that can be printed: text is not empty and holds no marks, an expression holds nothing
that would end it early, tags are canonical and have a body when the table says so, and among the
children of a block no two texts are adjacent. -/
inductive Node.Printable (table : TagTable) : Node → Prop
  | text {t : String} (hne : t ≠ "") (hlt : '<' ∉ t.toList) (hmark : '#' ∉ t.toList) :
    Printable table (.text t)
  | interpolation {expression : String} (span : Span)
    (h : ∀ c ∈ expression.toList, c ≠ '#' ∧ c ≠ '<' ∧ c ≠ '>' ∧ c ≠ '\n') :
    Printable table (.interpolation expression span)
  | void {tag : Tag} (h : tag.Canonical table false) : Printable table (.void tag)
  | block {tag : Tag} {children : List Node} (h : tag.Canonical table true)
    (hchildren : ∀ child ∈ children, Printable table child) (hapart : children.IsChain Apart) :
    Printable table (.block tag children)

/-! ## Printing -/

/-- An opening tag. -/
def Tag.print (tag : Tag) : List Char := '<' :: openingInside tag.name tag.attributes ++ ['>']

/-- A closing tag. -/
def Tag.printClosing (tag : Tag) : List Char := '<' :: closingInside tag.name ++ ['>']

mutual

/-- A node as it is printed. -/
def Node.print : Node → List Char
  | .text t => t.toList
  | .interpolation expression _ => '#' :: expression.toList ++ ['#']
  | .void tag => tag.print
  | .block tag children => tag.print ++ printAll children ++ tag.printClosing

/-- Siblings as they are printed. -/
def printAll : List Node → List Char
  | [] => []
  | first :: rest => first.print ++ printAll rest

end

/-! ## The tree that comes back -/

/-- A tag that agrees with another up to its place, with the attribute text as printed. -/
structure Tag.ReadsBack (tag read : Tag) : Prop where
  name : read.name = tag.name
  attributes : read.attributes = tag.attributes
  raw : read.raw = String.ofList (Attributes.print tag.attributes)

/-- A node that agrees with another up to places, with attribute texts as printed. -/
inductive Node.ReadsBack : Node → Node → Prop
  | text (t : String) : ReadsBack (.text t) (.text t)
  | interpolation (expression : String) (span read : Span) :
    ReadsBack (.interpolation expression span) (.interpolation expression read)
  | void {tag read : Tag} (h : tag.ReadsBack read) : ReadsBack (.void tag) (.void read)
  | block {tag read : Tag} {children reads : List Node} (h : tag.ReadsBack read)
    (hchildren : List.Forall₂ ReadsBack children reads) :
    ReadsBack (.block tag children) (.block read reads)

/-- A tag that is printed at a place. -/
def Tag.located (tag : Tag) (pos : Position) : Tag :=
  { tag with
    raw := String.ofList (Attributes.print tag.attributes)
    span := .between pos (pos.advance tag.print) }

mutual

/-- A node that is printed at a place. -/
def Node.located : Node → Position → Node
  | .text t, _ => .text t
  | .interpolation expression _, pos =>
    .interpolation expression (.between pos (pos.advance ('#' :: expression.toList ++ ['#'])))
  | .void tag, pos => .void (tag.located pos)
  | .block tag children, pos =>
    .block (tag.located pos) (locatedAll children (pos.advance tag.print))

/-- Siblings that are printed from a place on. -/
def locatedAll : List Node → Position → List Node
  | [], _ => []
  | first :: rest, pos => first.located pos :: locatedAll rest (pos.advance first.print)

end

theorem Tag.readsBack_located (tag : Tag) (pos : Position) : tag.ReadsBack (tag.located pos) :=
  ⟨rfl, rfl, rfl⟩

mutual

/-- A printed node agrees with the node. -/
theorem Node.readsBack_located : (node : Node) → (pos : Position) →
    node.ReadsBack (node.located pos)
  | .text t, _ => by
    rw [Node.located]
    exact .text t
  | .interpolation expression span, pos => by
    rw [Node.located]
    exact .interpolation expression span _
  | .void tag, pos => by
    rw [Node.located]
    exact .void (tag.readsBack_located pos)
  | .block tag children, pos => by
    rw [Node.located]
    exact .block (tag.readsBack_located pos) (readsBack_locatedAll children _)

/-- Printed siblings agree with the siblings. -/
theorem readsBack_locatedAll : (nodes : List Node) → (pos : Position) →
    List.Forall₂ Node.ReadsBack nodes (locatedAll nodes pos)
  | [], _ => by
    rw [locatedAll]
    exact .nil
  | first :: rest, pos => by
    rw [locatedAll]
    exact .cons (first.readsBack_located pos) (readsBack_locatedAll rest _)

end

theorem Node.isText_located (node : Node) (pos : Position) :
    (node.located pos).isText = node.isText := by
  cases node <;> rw [Node.located] <;> rfl

/-! ## Building from a print -/

/-- What follows a printed node that is no text is of no account for the first mark of it. -/
theorem Node.atMarkup_print {table : TagTable} {node : Node} (h : node.Printable table)
    (htext : node.isText = false) (after : List Char) :
    ∃ markup, AtMarkup (node.print ++ after) (some markup) := by
  have htag : ∀ {tag : Tag} {hasBody : Bool} (h : tag.Canonical table hasBody) (rest : List Char),
      ∃ markup, AtMarkup (tag.print ++ rest) (some markup) := by
    intro tag hasBody h rest
    rw [Tag.print, List.cons_append, List.cons_append, List.append_assoc]
    exact ⟨_, atMarkup_tag (opensTag_openingInside h.name _ _)⟩
  cases h with
  | text => cases htext
  | interpolation span h =>
    rw [print, List.append_assoc]
    exact ⟨_, atMarkup_interpolation h after⟩
  | void h =>
    rw [print]
    exact htag h after
  | block h =>
    rw [print, List.append_assoc, List.append_assoc]
    exact htag h _

/-- A closing tag is markup. -/
theorem Tag.atMarkup_printClosing {table : TagTable} {hasBody : Bool} {tag : Tag}
    (h : tag.Canonical table hasBody) (after : List Char) :
    ∃ markup, AtMarkup (tag.printClosing ++ after) markup := by
  rw [printClosing, List.cons_append, List.cons_append, List.append_assoc]
  exact ⟨_, atMarkup_tag (opensTag_closingInside h.name _)⟩

namespace TreeBuilder

variable {table : TagTable} {maxDepth : Nat} {b : TreeBuilder} {tag : Tag} {hasBody : Bool}

/-- An accepted token leads on to the rest of the items. -/
theorem acceptAll_ok {next : TreeBuilder} {token : Token}
    (h : b.accept table maxDepth token = .ok next) (items : List (Except ScanError Token)) :
    b.acceptAll table maxDepth (.ok token :: items) = next.acceptAll table maxDepth items := by
  rw [acceptAll, h]

/-- Text that comes next to no text is a node of its own. -/
theorem pushText_of_apart {text : String} (hne : text ≠ "")
    (h : ∀ last ∈ b.current.head?, last.isText = false) :
    b.pushText text = b.push (.text text) := by
  rw [pushText, if_neg (by simpa using hne)]
  split
  · next previous rest hcurrent =>
    rw [hcurrent] at h
    exact absurd (h _ rfl) (by simp [Node.isText])
  · rfl

/-- A printed opening tag is accepted as the tag, located. -/
theorem acceptAll_opening {next : TreeBuilder} (h : tag.Canonical table hasBody) (pos : Position)
    (hopen : b.openTag maxDepth (tag.located pos) hasBody false = .ok next) (after : List Char) :
    b.acceptAll table maxDepth (Scanner.itemsAt (tag.print ++ after) pos) =
      next.acceptAll table maxDepth (Scanner.itemsAt after (pos.advance tag.print)) := by
  rw [Tag.print, List.append_assoc, List.singleton_append]
  rw [Scanner.itemsAt_tag (hidden_openingInside h.name h.attributeNames) after
    (opensTag_openingInside h.name _ _)]
  apply acceptAll_ok
  rw [accept, ofTag_openingInside h.name h.attributeNames]
  simp only [h.resolved, parse_print h.attributeNames h.distinct]
  exact hopen

/-- A printed closing tag closes the tag. -/
theorem acceptAll_closing (h : tag.Canonical table true) (pos : Position) (nodes : List Node)
    (before : List Node) (opened : List (Tag × List Node)) (stop : Position)
    (after : List Char) :
    acceptAll table maxDepth ⟨nodes, (tag.located pos, before) :: opened⟩
        (Scanner.itemsAt (tag.printClosing ++ after) stop) =
      acceptAll table maxDepth ⟨.block (tag.located pos) nodes.reverse :: before, opened⟩
        (Scanner.itemsAt after (stop.advance tag.printClosing)) := by
  rw [Tag.printClosing, List.append_assoc, List.singleton_append]
  rw [Scanner.itemsAt_tag (hidden_closingInside h.name) after (opensTag_closingInside h.name _)]
  apply acceptAll_ok
  rw [accept, ofTag_closingInside h.name]
  simp only [h.resolved]
  rw [if_pos trivial, closeTag]
  exact if_pos rfl

/-- A printed text is accepted as a node of its own, when it stands between no texts. -/
theorem acceptAll_text {t : String} (hne : t ≠ "") (hlt : '<' ∉ t.toList) (hmark : '#' ∉ t.toList)
    (hlast : ∀ last ∈ b.current.head?, last.isText = false) {after : List Char}
    {markup : Option Markup} (hafter : AtMarkup after markup) (pos : Position) :
    b.acceptAll table maxDepth (Scanner.itemsAt (t.toList ++ after) pos) =
      (b.push (.text t)).acceptAll table maxDepth
        (Scanner.itemsAt after (pos.advance t.toList)) := by
  have hchars : t.toList ≠ [] := fun h => hne (String.toList_eq_nil_iff.mp h)
  rw [Scanner.itemsAt_text hchars hlt hmark hafter]
  apply acceptAll_ok
  rw [String.ofList_toList]
  exact congrArg Except.ok (pushText_of_apart hne hlast)

/-- A printed interpolation is accepted, located. -/
theorem acceptAll_interpolation {expression : String} (span : Span)
    (h : ∀ c ∈ expression.toList, c ≠ '#' ∧ c ≠ '<' ∧ c ≠ '>' ∧ c ≠ '\n') (after : List Char)
    (pos : Position) :
    b.acceptAll table maxDepth
        (Scanner.itemsAt ((Node.interpolation expression span).print ++ after) pos) =
      (b.push ((Node.interpolation expression span).located pos)).acceptAll table maxDepth
        (Scanner.itemsAt after (pos.advance (Node.interpolation expression span).print)) := by
  rw [Node.print, Node.located, List.append_assoc, List.singleton_append]
  rw [Scanner.itemsAt_of_atMarkup (atMarkup_interpolation h after), Scanner.itemsFromMarkup]
  apply acceptAll_ok
  rw [String.ofList_toList]
  rfl

mutual

/-- The print of a node in front of anything adds the node, located. A text must not come next to
another one. -/
theorem acceptAll_print (maxDepth : Nat) : (node : Node) → (b : TreeBuilder) → (pos : Position) →
    (after : List Char) → node.Printable table → b.opened.length + node.height ≤ maxDepth →
    (∀ last ∈ b.current.head?, last.Apart node) →
    (node.isText = true → ∃ markup, AtMarkup after markup) →
    b.acceptAll table maxDepth (Scanner.itemsAt (node.print ++ after) pos) =
      (b.push (node.located pos)).acceptAll table maxDepth
        (Scanner.itemsAt after (pos.advance node.print))
  | .text t, b, pos, after, h, _, hlast, hafter => by
    cases h with
    | text hne hlt hmark =>
      obtain ⟨markup, hmarkup⟩ := hafter rfl
      have halone : ∀ last ∈ b.current.head?, last.isText = false := fun last hl =>
        Bool.eq_false_iff.mpr fun ht => hlast last hl ⟨ht, rfl⟩
      rw [Node.print, Node.located]
      exact acceptAll_text hne hlt hmark halone hmarkup pos
  | .interpolation expression span, b, pos, after, h, _, _, _ => by
    cases h with
    | interpolation _ h => exact acceptAll_interpolation span h after pos
  | .void tag, b, pos, after, h, _, _, _ => by
    cases h with
    | void h =>
      rw [Node.print, Node.located]
      exact acceptAll_opening h pos rfl after
  | .block tag children, b, pos, after, h, hdepth, _, _ => by
    cases h with
    | block h hchildren hapart =>
      rw [Node.height] at hdepth
      -- the tag opens, its children are read as one more that is open, and it closes again
      have hopen : b.openTag maxDepth (tag.located pos) true false =
          .ok ⟨[], (tag.located pos, b.current) :: b.opened⟩ := by
        have hroom : ¬ maxDepth ≤ b.opened.length := by omega
        exact if_neg hroom
      have hclosing := Tag.atMarkup_printClosing h after
      have hbody := acceptAll_printAll maxDepth children
        ⟨[], (tag.located pos, b.current) :: b.opened⟩ (pos.advance tag.print)
        (tag.printClosing ++ after) hchildren hapart
        (by rw [List.length_cons]; omega) (fun _ hl => nomatch hl) hclosing
      rw [Node.print, Node.located, List.append_assoc, List.append_assoc]
      rw [acceptAll_opening h pos hopen, hbody, List.append_nil, acceptAll_closing h]
      rw [List.reverse_reverse, Position.advance_append, Position.advance_append]
      rfl

/-- The print of some siblings in front of markup adds them, located. -/
theorem acceptAll_printAll (maxDepth : Nat) : (nodes : List Node) → (b : TreeBuilder) →
    (pos : Position) → (after : List Char) → (∀ node ∈ nodes, node.Printable table) →
    nodes.IsChain Node.Apart → b.opened.length + heightAll nodes ≤ maxDepth →
    (∀ last ∈ b.current.head?, ∀ node ∈ nodes.head?, last.Apart node) →
    (∃ markup, AtMarkup after markup) →
    b.acceptAll table maxDepth (Scanner.itemsAt (printAll nodes ++ after) pos) =
      acceptAll table maxDepth ⟨(locatedAll nodes pos).reverse ++ b.current, b.opened⟩
        (Scanner.itemsAt after (pos.advance (printAll nodes)))
  | [], b, pos, after, _, _, _, _, _ => by
    rw [printAll, locatedAll]
    rfl
  | first :: rest, b, pos, after, h, hapart, hdepth, hlast, hafter => by
    rw [heightAll] at hdepth
    rw [List.isChain_cons] at hapart
    have hfirst := h first (List.mem_cons_self ..)
    have hrest : ∀ node ∈ rest, node.Printable table := fun n hn => h n (List.mem_cons_of_mem _ hn)
    -- behind a text there is no text, so what follows it is markup
    have hnext : first.isText = true → ∃ markup, AtMarkup (printAll rest ++ after) markup := by
      intro htext
      cases rest with
      | nil =>
        rw [printAll]
        exact hafter
      | cons second rest =>
        have hsecond : second.isText = false :=
          Bool.eq_false_iff.mpr fun ht => hapart.1 second rfl ⟨htext, ht⟩
        obtain ⟨markup, hm⟩ := Node.atMarkup_print (hrest second (List.mem_cons_self ..)) hsecond
          (printAll rest ++ after)
        rw [printAll, List.append_assoc]
        exact ⟨_, hm⟩
    -- and the builder does not join the next node to the one just added
    have hseam : ∀ last ∈ (b.push (first.located pos)).current.head?, ∀ node ∈ rest.head?,
        last.Apart node := by
      intro last hl node hn ⟨hleft, hright⟩
      cases hl
      rw [Node.isText_located] at hleft
      exact hapart.1 node hn ⟨hleft, hright⟩
    rw [printAll, locatedAll, List.append_assoc]
    rw [acceptAll_print maxDepth first b pos _ hfirst (by omega)
      (fun last hl => hlast last hl first rfl) hnext]
    rw [acceptAll_printAll maxDepth rest _ _ after hrest hapart.2 (by simp only [push]; omega) hseam
      hafter]
    rw [List.reverse_cons, List.append_assoc, Position.advance_append]
    rfl

end

end TreeBuilder

/-! ## The round trip -/

/-- The printed source of a tree. -/
def Template.source (nodes : List Node) : String := String.ofList (printAll nodes)

/-- Parsing a printed tree gives the tree back, up to places and with attribute texts as they were
printed, if no two texts are adjacent and blocks nest no deeper than is allowed. -/
theorem parse_source {table : TagTable} {maxDepth : Nat} {nodes : List Node}
    (h : ∀ node ∈ nodes, node.Printable table) (hapart : nodes.IsChain Node.Apart)
    (hdepth : heightAll nodes ≤ maxDepth) :
    ∃ template, Template.parse table maxDepth (Template.source nodes) = .ok template ∧
      List.Forall₂ Node.ReadsBack nodes template.nodes := by
  refine ⟨⟨locatedAll nodes .start⟩, ?_, readsBack_locatedAll nodes .start⟩
  have hbuild := TreeBuilder.acceptAll_printAll maxDepth nodes .empty .start [] h hapart
    (by simpa [TreeBuilder.empty] using hdepth) (fun _ hl => nomatch hl) ⟨none, rfl⟩
  have hnone : AtMarkup [] none := rfl
  have hend : Scanner.itemsAt [] (Position.start.advance (printAll nodes)) = [] :=
    Scanner.itemsAt_of_atMarkup hnone _
  have hitems : (Scanner.ofSource (Template.source nodes)).items =
      Scanner.itemsAt (printAll nodes) .start := by
    rw [Template.source, Scanner.ofSource, String.toList_ofList]
    rfl
  rw [List.append_nil, hend] at hbuild
  rw [Template.parse, Template.build, hitems, hbuild]
  simp [TreeBuilder.acceptAll, TreeBuilder.finish, TreeBuilder.empty]

/-- A block whose attribute hides quotes and a `>`, with interpolations that touch and a void tag
in its body. -/
theorem parse_source_of_block :
    let table : TagTable := fun name =>
      if name = "if" then some ⟨"if", true⟩ else if name = "set" then some ⟨"set", false⟩ else none
    let attributes : Attributes := .ofList [("test", "a \"b\" > 'c'"), ("x_1", "")]
    let nodes : List Node := [.text "1 > 0", .block ⟨"if", attributes, "", default⟩
      [.interpolation "v" default, .interpolation "w" default,
        .void ⟨"set", .empty, "", default⟩, .text "z"]]
    Template.source nodes =
      "1 > 0<if test=\"a \"\"b\"\" > 'c'\" x_1=\"\">#v##w#<set>z</if>" ∧
    ∃ template, Template.parse table 1 (Template.source nodes) = .ok template ∧
      List.Forall₂ Node.ReadsBack nodes template.nodes := by
  intro table attributes nodes
  have hif : Tag.Canonical table true ⟨"if", attributes, "", default⟩ :=
    ⟨⟨⟨by decide +kernel, by decide +kernel⟩, by decide +kernel⟩, rfl, by decide +kernel,
      by decide +kernel⟩
  have hset : Tag.Canonical table false ⟨"set", .empty, "", default⟩ :=
    ⟨⟨⟨by decide +kernel, by decide +kernel⟩, by decide +kernel⟩, rfl, by decide +kernel,
      by decide +kernel⟩
  have hv : Node.Printable table (.interpolation "v" default) :=
    .interpolation _ (List.forall_mem_singleton.mpr (by decide))
  have hw : Node.Printable table (.interpolation "w" default) :=
    .interpolation _ (List.forall_mem_singleton.mpr (by decide))
  have hchildren : ∀ child ∈ [Node.interpolation "v" default, .interpolation "w" default,
      .void ⟨"set", .empty, "", default⟩, .text "z"], child.Printable table := by
    simp only [List.forall_mem_cons, List.not_mem_nil, false_implies, implies_true, and_true]
    exact ⟨hv, hw, .void hset, .text (by decide) (by decide) (by decide)⟩
  refine ⟨by decide +kernel, parse_source ?_ ?_ ?_⟩
  · simp only [nodes, List.forall_mem_cons, List.not_mem_nil, false_implies, implies_true,
      and_true]
    exact ⟨.text (by decide) (by decide) (by decide),
      .block hif hchildren (by simp [Node.Apart, Node.isText])⟩
  · simp [nodes, Node.Apart, Node.isText]
  · decide +kernel

end TagTemplate
