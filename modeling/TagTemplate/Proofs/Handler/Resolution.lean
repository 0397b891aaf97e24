import TagTemplate.Builtin.Registry
import TagTemplate.Proofs.Handler.Registry
import TagTemplate.Proofs.Tree.Foreign

/-!
# What names refer to

What a name in a source refers to is a matter of the handlers that were registered, in their order:
the one that was registered last under the name, or else the first one that answers to it, where a
handler stands in the place in which its name was first registered (`Registry.meaning`). A handler
under a new name comes last, so it takes nothing from the others. A source that they make a tree of
has the same tree after it is registered (`Registry.names_resolve_by_history`).
-/

namespace TagTemplate

/-! ## Tables that agree -/

section

variable {table table' : TagTable} {depth : Nat}

/-- What is made of a token is a matter of the name that it has in the table, if it is a tag. -/
theorem TreeBuilder.accept_congr {b : TreeBuilder} {token : Token}
    (h : ∀ name ∈ token.tagName?, table' name = table name) :
    b.accept table' depth token = b.accept table depth token := by
  unfold accept
  cases hkind : token.kind with
  | text text => rfl
  | interpolation expression => rfl
  | tagOpen name raw selfClosing =>
    have hname : name ∈ token.tagName? := by rw [Token.tagName?, hkind]; rfl
    simp only [h name hname]
  | tagClose name =>
    have hname : name ∈ token.tagName? := by rw [Token.tagName?, hkind]; rfl
    simp only [h name hname]

/-- Tables that agree on the names in a row of tokens make the same of it. -/
theorem TreeBuilder.acceptAll_congr {items : List (Except ScanError Token)}
    (h : ∀ token, .ok token ∈ items → ∀ name ∈ token.tagName?, table' name = table name)
    (b : TreeBuilder) : b.acceptAll table' depth items = b.acceptAll table depth items := by
  induction items generalizing b with
  | nil => rfl
  | cons item rest ih =>
    cases item with
    | error e => rfl
    | ok token =>
      rw [acceptAll, acceptAll, accept_congr (h token (List.mem_cons_self ..))]
      cases b.accept table depth token with
      | error e => rfl
      | ok next => exact ih (fun token htoken => h token (List.mem_cons_of_mem _ htoken)) next

theorem Template.parse_congr {source : String}
    (h : ∀ token, .ok token ∈ (Scanner.ofSource source).items →
      ∀ name ∈ token.tagName?, table' name = table name) :
    parse table' depth source = parse table depth source := by
  rw [parse, parse, build, build, TreeBuilder.acceptAll_congr h]

end

/-! ## Entries and keys -/

/-- Where each key is there once, to look for an entry is to look for a key with its value. -/
theorem OrderedMap.find?_entries {α : Type} {m : OrderedMap α} (h : m.keys.Nodup)
    (accepts : α → Bool) :
    m.entries.find? (fun entry => accepts entry.2) =
      m.keys.findSome? fun key => ((m.get? key).filter accepts).map (Prod.mk key) := by
  have hall : ∀ entries : List (String × α), (∀ entry ∈ entries, entry ∈ m.entries) →
      entries.find? (fun entry => accepts entry.2) =
        (entries.map Prod.fst).findSome? fun key =>
          ((m.get? key).filter accepts).map (Prod.mk key) := by
    intro entries
    induction entries with
    | nil => exact fun _ => rfl
    | cons entry rest ih =>
      intro hentries
      obtain ⟨hfirst, hrest⟩ := List.forall_mem_cons.mp hentries
      rw [List.find?_cons, List.map_cons, List.findSome?_cons, get?_of_mem h hfirst, ih hrest,
        Option.filter_some]
      cases accepts entry.2 <;> rfl
  exact hall m.entries fun _ h => h

namespace Registry

variable {r : Registry} {name written : String} {handler : Handler}

/-! ## Histories of a registry -/

/-- The handler that was registered last under a canonical name. -/
def lastUnder (entries : List (String × Handler)) (name : String) : Option Handler :=
  (entries.reverse.find? fun entry => Text.foldAscii entry.1 == name).map Prod.snd

/-- The canonical names in the order in which they were first registered. -/
def firstNames (entries : List (String × Handler)) : List String :=
  (entries.map fun entry => Text.foldAscii entry.1).eraseDups

/-- What a name refers to after some handlers were registered: the handler of that name, or else the
first one that answers to it, each with its canonical name. -/
def meaning (entries : List (String × Handler)) (written : String) : Option (String × Handler) :=
  match lastUnder entries (Text.foldAscii written) with
  | some handler => some (Text.foldAscii written, handler)
  | none => (firstNames entries).findSome? fun name =>
    ((lastUnder entries name).filter (·.answersTo (Text.foldAscii written))).map (Prod.mk name)

/-- To register handlers is to set the keys that their names fold to. -/
theorem handlers_registerAll (entries : List (String × Handler)) :
    (empty.registerAll entries).handlers =
      .ofList (entries.map fun entry => (Text.foldAscii entry.1, entry.2)) := by
  rw [OrderedMap.ofList, List.foldl_map]
  exact (List.foldl_hom handlers fun _ _ => rfl).symm

theorem names_registerAll (entries : List (String × Handler)) :
    (empty.registerAll entries).names = firstNames entries := by
  rw [names, handlers_registerAll, OrderedMap.keys_ofList, List.map_map]
  rfl

theorem get?_registerAll (entries : List (String × Handler)) (name : String) :
    (empty.registerAll entries).get? name = lastUnder entries name := by
  rw [get?, handlers_registerAll, OrderedMap.get?_ofList, ← List.map_reverse, List.find?_map,
    Option.map_map]
  rfl

theorem nodup_registerAll (entries : List (String × Handler)) :
    (empty.registerAll entries).names.Nodup := by
  have hempty : empty.names.Nodup := List.nodup_nil
  exact nodup_names_registerAll hempty entries

theorem resolve?_registerAll (entries : List (String × Handler)) (written : String) :
    (empty.registerAll entries).resolve? written = meaning entries written := by
  rw [meaning]
  cases hlast : lastUnder entries (Text.foldAscii written) with
  | some handler => exact resolve?_of_get? ((get?_registerAll entries _).trans hlast)
  | none =>
    have hfind := OrderedMap.find?_entries (nodup_registerAll entries)
      (·.answersTo (Text.foldAscii written))
    rw [resolve?_of_get?_none ((get?_registerAll entries _).trans hlast), hfind,
      ← names_registerAll]
    simp only [← get?_registerAll]
    rfl

/-! ## One more handler -/

/-- A handler of a new name comes after all others. -/
theorem entries_register (hnew : Text.foldAscii name ∉ r.names) :
    (r.register name handler).handlers.entries =
      r.handlers.entries ++ [(Text.foldAscii name, handler)] :=
  OrderedMap.put_of_notMem hnew handler

/-- It takes no name from them. -/
theorem resolve?_register (hnew : Text.foldAscii name ∉ r.names)
    (hother : Text.foldAscii written ≠ Text.foldAscii name)
    (hresolves : (r.resolve? written).isSome = true) :
    (r.register name handler).resolve? written = r.resolve? written := by
  have hget : (r.register name handler).get? (Text.foldAscii written) =
      r.get? (Text.foldAscii written) := get?_register_of_ne r hother handler
  cases hfound : r.get? (Text.foldAscii written) with
  | some found => rw [resolve?_of_get? (hget.trans hfound), resolve?_of_get? hfound]
  | none =>
    rw [resolve?_of_get?_none hfound] at hresolves
    obtain ⟨entry, hentry⟩ := Option.isSome_iff_exists.mp hresolves
    rw [resolve?_of_get?_none (hget.trans hfound), resolve?_of_get?_none hfound,
      entries_register hnew, List.find?_append, hentry]
    rfl

/-- After handlers were registered, each canonical name is listed once, in the order in which the
names came up, and a name in a source refers to what their history says. One more handler under a
new name changes nothing about the other names that refer to something, so a source without other
names has the same tree, or the same error, as before. -/
theorem names_resolve_by_history (entries : List (String × Handler)) :
    let r := empty.registerAll entries
    (r.names.Nodup ∧ r.names = firstNames entries) ∧
      (∀ written, r.resolve? written = meaning entries written) ∧
      ∀ name handler, Text.foldAscii name ∉ r.names →
        (∀ written, Text.foldAscii written ≠ Text.foldAscii name →
          (r.resolve? written).isSome = true →
            (r.register name handler).resolve? written = r.resolve? written) ∧
        ∀ depth source,
          (∀ token, .ok token ∈ (Scanner.ofSource source).items → ∀ written ∈ token.tagName?,
            Text.foldAscii written ≠ Text.foldAscii name ∧
              (r.resolve? written).isSome = true) →
            Template.parse (r.register name handler).table depth source =
              Template.parse r.table depth source := by
  intro r
  refine ⟨⟨nodup_registerAll entries, names_registerAll entries⟩,
    resolve?_registerAll entries, fun name handler hnew => ⟨?_, ?_⟩⟩
  · exact fun written hother hresolves => resolve?_register hnew hother hresolves
  · intro depth source hsource
    refine Template.parse_congr fun token htoken written hwritten => ?_
    obtain ⟨hother, hresolves⟩ := hsource token htoken written hwritten
    rw [table, table, resolve?_register hnew hother hresolves]

/-- A handler that replaces a built-in one keeps its place and answers to other names. One that is
registered after it answers to the same name in vain. -/
theorem names_resolve_by_history_of_replaced :
    let choosy : Handler := { hasBody := true, answersTo := (· == "when") }
    let late : Handler := { hasBody := false, answersTo := (· == "when") }
    let r := empty.registerAll (Builtin.handlers ++ [("CFIF", choosy)])
    let source := "<When>x<SET a='1'></cfif>"
    r.names = Builtin.handlers.map Prod.fst ∧
      (r.resolve? "WHEN").map Prod.fst = some "cfif" ∧ (r.resolve? "if").isNone = true ∧
      ((r.register "Note" late).resolve? "WHEN").map Prod.fst = some "cfif" ∧
      ∀ depth, Template.parse (r.register "Note" late).table depth source =
        Template.parse r.table depth source := by
  intro choosy late r source
  obtain ⟨⟨-, hnames⟩, hmeaning, hmore⟩ :=
    names_resolve_by_history (Builtin.handlers ++ [("CFIF", choosy)])
  have hlisted : r.names = Builtin.handlers.map Prod.fst := hnames.trans (by decide +kernel)
  have hnew : Text.foldAscii "Note" ∉ r.names := by
    rw [hlisted]
    decide +kernel
  have hwhen : (r.resolve? "WHEN").map Prod.fst = some "cfif" := by
    rw [hmeaning]
    decide +kernel
  obtain ⟨hothers, hparse⟩ := hmore "Note" late hnew
  refine ⟨hlisted, hwhen, ?_, ?_, fun depth => hparse depth source ?_⟩
  · rw [hmeaning]
    decide +kernel
  · rw [hothers "WHEN" (by decide +kernel) (by rw [hmeaning]; decide +kernel)]
    exact hwhen
  · obtain ⟨tokens, htokens, hknown⟩ : ∃ tokens, Scanner.tokenize source = .ok tokens ∧
        ∀ token ∈ tokens, ∀ written ∈ token.tagName?,
          Text.foldAscii written ≠ Text.foldAscii "Note" ∧
            (meaning (Builtin.handlers ++ [("CFIF", choosy)]) written).isSome = true :=
      ⟨[⟨.tagOpen "when" "" false, ⟨0, 6, 1, 1⟩, "<When>"⟩,
        ⟨.text "x", ⟨6, 7, 1, 7⟩, "x"⟩,
        ⟨.tagOpen "set" "a='1'" false, ⟨7, 18, 1, 8⟩, "<SET a='1'>"⟩,
        ⟨.tagClose "cfif", ⟨18, 25, 1, 19⟩, "</cfif>"⟩], by decide +kernel, by decide +kernel⟩
    rw [(Scanner.mapM_id_eq_ok_iff _ _).mp htokens]
    intro token htoken written hwritten
    obtain ⟨_, hmem, hsame⟩ := List.mem_map.mp htoken
    cases hsame
    rw [hmeaning]
    exact hknown token hmem written hwritten

end Registry

end TagTemplate
