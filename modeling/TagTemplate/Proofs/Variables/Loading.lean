import TagTemplate.Json.Variables
import TagTemplate.Proofs.Names.Bindings

/-!
# Scopes from JSON

The members of an object are made one twice: first those of exactly the same name, in the place of
the first of them and with the value of the last, and then those whose names differ in the case of
their letters only. The names come out in the order in which setting the members one after the other
binds them. The values may not. A name has the last value of that spelling of it which was the last
to come up, even if a member of an older spelling comes after it. Where no such member is the last
one of its name, the scope is the one that setting the members makes
(`Scope.ofJson?_eq_ofList_iff`).
-/

namespace TagTemplate

/-- What is found among all, and is one of a few, is found among these few. -/
theorem find?_of_imp {α : Type} {entries : List α} {p q : α → Bool} {entry : α}
    (hfind : entries.find? p = some entry) (hentry : q entry = true)
    (himp : ∀ entry, q entry = true → p entry = true) : entries.find? q = some entry := by
  obtain ⟨-, before, after, rfl, hbefore⟩ := List.find?_eq_some_iff_append.mp hfind
  refine List.find?_eq_some_iff_append.mpr ⟨hentry, before, after, rfl, fun other hother => ?_⟩
  have hnot := hbefore other hother
  rw [Bool.not_eq_true'] at hnot ⊢
  exact Bool.eq_false_iff.mpr fun h => Bool.eq_false_iff.mp hnot (himp other h)

namespace OrderedMap

variable {α : Type} {m m' : OrderedMap α}

/-- Where each key is there once, the entries are the keys with their values. -/
theorem entries_eq_filterMap_keys (h : m.keys.Nodup) :
    m.entries = m.keys.filterMap fun key => (m.get? key).map (Prod.mk key) := by
  calc m.entries
    _ = m.entries.filterMap some := List.filterMap_some.symm
    _ = m.entries.filterMap fun entry => (m.get? entry.1).map (Prod.mk entry.1) :=
        List.filterMap_congr fun entry hentry => by rw [get?_of_mem h hentry]; rfl
    _ = m.keys.filterMap fun key => (m.get? key).map (Prod.mk key) := by
        rw [keys, List.filterMap_map]
        rfl

/-- Maps that hold the same keys once, in the same order and with the same values, are the same. -/
theorem eq_of_keys (h : m.keys.Nodup) (hkeys : m'.keys = m.keys)
    (hget : ∀ key ∈ m.keys, m'.get? key = m.get? key) : m' = m := by
  refine congrArg OrderedMap.mk ?_
  rw [entries_eq_filterMap_keys h, entries_eq_filterMap_keys (hkeys ▸ h), hkeys]
  exact List.filterMap_congr fun key hkey => by rw [hget key hkey]

end OrderedMap

namespace NameMap

variable {α : Type} {m m' : NameMap α}

theorem get?_foldAscii (m : NameMap α) (name : String) :
    m.get? (Text.foldAscii name) = m.get? name := by
  rw [get?, Text.foldAscii_foldAscii, ← get?]

/-- Maps that have the same names, in the same order and with the same values, are the same. -/
theorem eq_of_names (h : m.Tidy) (hnames : m'.names = m.names)
    (hget : ∀ name ∈ m.names, m'.get? name = m.get? name) : m' = m := by
  refine congrArg NameMap.mk (OrderedMap.eq_of_keys h.distinct hnames fun key hkey => ?_)
  have hvalue := hget key hkey
  rwa [get?, get?, h.folded key hkey] at hvalue

end NameMap

/-- Texts that are the same after a change are one, whether copies are dropped before it or not. -/
theorem eraseDups_map_eraseDups (f : String → String) (names : List String) :
    (names.eraseDups.map f).eraseDups = (names.map f).eraseDups := by
  induction names using List.reverseRecOn with
  | nil => rfl
  | append_singleton names name ih =>
    rw [eraseDups_concat, List.map_append, List.map_singleton, eraseDups_concat, ← ih]
    by_cases hold : name ∈ names
    · rw [if_pos hold, if_pos (List.mem_map_of_mem hold)]
    · rw [if_neg hold, List.map_append, List.map_singleton, eraseDups_concat]
      simp only [List.mem_map, List.mem_eraseDups]

namespace NameMap

variable {α : Type}

/-! ## Spellings -/

/-- The spelling of a name that comes last. -/
def lastSpelling (names : List String) (name : String) : Option String :=
  names.reverse.find? fun spelling => Text.foldAscii spelling == Text.foldAscii name

/-- The spelling of a name that is the last to come up for the first time. -/
def newestSpelling (names : List String) (name : String) : Option String :=
  lastSpelling names.eraseDups name

/-- The newest spelling of each name is the one that comes last. -/
def Settled (names : List String) : Prop :=
  ∀ name ∈ names, newestSpelling names name = lastSpelling names name

instance (names : List String) : Decidable (Settled names) :=
  inferInstanceAs (Decidable (∀ name ∈ names, _))

/-- The last value of exactly this spelling. -/
def lastValue (entries : List (String × α)) (spelling : String) : Option α :=
  (entries.reverse.find? fun entry => entry.1 == spelling).map Prod.snd

/-- Sets names one after the other, once those that are exactly the same are one. -/
def merged (entries : List (String × α)) : NameMap α := ofList (OrderedMap.ofList entries).entries

theorem names_merged (entries : List (String × α)) :
    (merged entries).names = (ofList entries).names := by
  have hfolded : ∀ entries : List (String × α),
      (entries.map fun entry => Text.foldAscii entry.1) =
        (entries.map Prod.fst).map Text.foldAscii := fun entries => by rw [List.map_map]; rfl
  rw [merged, names_ofList, names_ofList, hfolded, hfolded, ← OrderedMap.keys,
    OrderedMap.keys_ofList, eraseDups_map_eraseDups]

/-- A name has the value that its last spelling has last. -/
theorem get?_ofList_spelling (entries : List (String × α)) (name : String) :
    (ofList entries).get? name =
      (lastSpelling (entries.map Prod.fst) name).bind (lastValue entries) := by
  rw [get?_ofList, lastSpelling, ← List.map_reverse, List.find?_map, Option.bind_map]
  simp only [Function.comp_def]
  cases hfind : entries.reverse.find? fun entry =>
      Text.foldAscii entry.1 == Text.foldAscii name with
  | none => rfl
  | some entry =>
    have hname : Text.foldAscii entry.1 = Text.foldAscii name := by
      simpa using List.find?_some hfind
    have hlast : entries.reverse.find? (fun other => other.1 == entry.1) = some entry :=
      find?_of_imp hfind (beq_self_eq_true _) fun other hother => by
        rw [beq_iff_eq.mp hother, hname, beq_self_eq_true]
    exact congrArg (Option.map Prod.snd) hlast.symm

/-- Merging what is exactly the same changes no value. -/
theorem lastValue_merge (entries : List (String × α)) (spelling : String) :
    lastValue (OrderedMap.ofList entries).entries spelling = lastValue entries spelling := by
  have hsame : OrderedMap.ofList (OrderedMap.ofList entries).entries = OrderedMap.ofList entries :=
    OrderedMap.ofList_of_nodup (OrderedMap.nodup_keys_ofList entries)
  calc lastValue (OrderedMap.ofList entries).entries spelling
    _ = (OrderedMap.ofList (OrderedMap.ofList entries).entries).get? spelling :=
        (OrderedMap.get?_ofList _ _).symm
    _ = (OrderedMap.ofList entries).get? spelling := by rw [hsame]
    _ = lastValue entries spelling := OrderedMap.get?_ofList _ _

/-- Once spellings are merged, a name has the last value of its newest spelling. -/
theorem get?_merged (entries : List (String × α)) (name : String) :
    (merged entries).get? name =
      (newestSpelling (entries.map Prod.fst) name).bind (lastValue entries) := by
  have hkeys : (OrderedMap.ofList entries).entries.map Prod.fst =
      (entries.map Prod.fst).eraseDups := OrderedMap.keys_ofList entries
  rw [merged, get?_ofList_spelling, newestSpelling, hkeys]
  exact congrArg _ (funext (lastValue_merge entries))

/-- Setting the members one after the other makes the same map where each name has the same value
by its newest spelling as by its last one. -/
theorem merged_eq_ofList_iff (entries : List (String × α)) :
    merged entries = ofList entries ↔ ∀ name ∈ entries.map Prod.fst,
      (newestSpelling (entries.map Prod.fst) name).bind (lastValue entries) =
        (lastSpelling (entries.map Prod.fst) name).bind (lastValue entries) := by
  constructor
  · intro hsame name _
    rw [← get?_merged, hsame, get?_ofList_spelling]
  · intro hvalues
    refine eq_of_names (tidy_ofList entries) (names_merged entries) fun key hkey => ?_
    rw [names_ofList, List.mem_eraseDups, List.mem_map] at hkey
    obtain ⟨entry, hentry, rfl⟩ := hkey
    rw [get?_foldAscii, get?_foldAscii, get?_merged, get?_ofList_spelling]
    exact hvalues entry.1 (List.mem_map_of_mem hentry)

theorem Settled.merged_eq_ofList {entries : List (String × α)}
    (h : Settled (entries.map Prod.fst)) : merged entries = ofList entries :=
  (merged_eq_ofList_iff entries).mpr fun name hname => by rw [h name hname]

end NameMap

/-! ## Scopes -/

open NameMap in
/-- An object of values is a scope. Its names are those that setting the members one after the other
binds, in their order, and each has the last value of its newest spelling. So the scope is the one
that setting the members makes if, and only if, this is the last value of the name for each name
among the members, and in particular where no member of an older spelling comes last. -/
theorem Scope.ofJson?_eq_ofList_iff {text : String} {members : List (String × Json)}
    {bindings : List (String × Value)} (hread : Json.read? text = some (.object members))
    (hvalues : Json.toBindings? members = some bindings) :
    ∃ scope, Scope.ofJson? text = some scope ∧
      scope.names = (bindings.map fun binding => Text.foldAscii binding.1).eraseDups ∧
      (∀ name, scope.get? name =
        (newestSpelling (bindings.map Prod.fst) name).bind (lastValue bindings)) ∧
      (scope = NameMap.ofList bindings ↔ ∀ name ∈ bindings.map Prod.fst,
        (newestSpelling (bindings.map Prod.fst) name).bind (lastValue bindings) =
          (lastSpelling (bindings.map Prod.fst) name).bind (lastValue bindings)) ∧
      (Settled (bindings.map Prod.fst) → scope = NameMap.ofList bindings) := by
  have hload : Scope.ofJson? text = some (merged bindings) := by
    rw [Scope.ofJson?, hread]
    exact congrArg (Option.map merged) hvalues
  have hnames : (merged bindings).names =
      (bindings.map fun binding => Text.foldAscii binding.1).eraseDups := by
    rw [names_merged, names_ofList]
  exact ⟨merged bindings, hload, hnames, get?_merged bindings, merged_eq_ofList_iff bindings,
    Settled.merged_eq_ofList⟩

/-- Here the last member of each name is of its newest spelling. -/
theorem Scope.ofJson?_eq_ofList_iff_of_settled :
    Json.read? "\x7b\"A\":\"1\",\"n\":[true],\"a\":null,\"N\":\"x\",\"a\":\"2\"\x7d" =
        some (.object [("A", .string "1"), ("n", .array [.bool true]), ("a", .null),
          ("N", .string "x"), ("a", .string "2")]) ∧
      Json.toBindings? [("A", .string "1"), ("n", .array [.bool true]), ("a", .null),
          ("N", .string "x"), ("a", .string "2")] =
        some [("A", .text "1"), ("n", .list [.bool true]), ("a", .null), ("N", .text "x"),
          ("a", .text "2")] ∧
      NameMap.Settled ["A", "n", "a", "N", "a"] ∧
      ∃ scope, Scope.ofJson? "\x7b\"A\":\"1\",\"n\":[true],\"a\":null,\"N\":\"x\",\"a\":\"2\"\x7d" =
          some scope ∧
        scope = NameMap.ofList [("A", .text "1"), ("n", .list [.bool true]), ("a", .null),
          ("N", .text "x"), ("a", .text "2")] ∧
        scope.names = ["a", "n"] ∧ scope.get? "a" = some (.text "2") := by
  have hread : Json.read? "\x7b\"A\":\"1\",\"n\":[true],\"a\":null,\"N\":\"x\",\"a\":\"2\"\x7d" =
      some (.object [("A", .string "1"), ("n", .array [.bool true]), ("a", .null),
        ("N", .string "x"), ("a", .string "2")]) := by
    simp [Json.read?, Json.readValue, Json.readMembers, Json.readItems, Json.readString,
      Json.skipBlanks, Json.isBlank, Json.maxNesting]
  have hsettled : NameMap.Settled ["A", "n", "a", "N", "a"] := by decide +kernel
  obtain ⟨scope, hload, hnames, hget, -, hscope⟩ := Scope.ofJson?_eq_ofList_iff hread rfl
  refine ⟨hread, rfl, hsettled, scope, hload, hscope hsettled, ?_, ?_⟩
  · rw [hnames]
    rfl
  · rw [hget]
    rfl

/-- The older spelling comes last here, and its value is lost to the newer one. -/
theorem Scope.ofJson?_ne_ofList :
    Json.read? "\x7b\"A\":\"1\",\"a\":\"2\",\"A\":\"3\"\x7d" =
        some (.object [("A", .string "1"), ("a", .string "2"), ("A", .string "3")]) ∧
      Json.toBindings? [("A", .string "1"), ("a", .string "2"), ("A", .string "3")] =
        some [("A", .text "1"), ("a", .text "2"), ("A", .text "3")] ∧
      (Scope.ofJson? "\x7b\"A\":\"1\",\"a\":\"2\",\"A\":\"3\"\x7d").map NameMap.toList =
        some [("a", .text "2")] ∧
      NameMap.toList (.ofList [("A", Value.text "1"), ("a", .text "2"), ("A", .text "3")]) =
        [("a", .text "3")] ∧
      Scope.ofJson? "\x7b\"A\":\"1\",\"a\":\"2\",\"A\":\"3\"\x7d" ≠
        some (.ofList [("A", .text "1"), ("a", .text "2"), ("A", .text "3")]) := by
  have hread : Json.read? "\x7b\"A\":\"1\",\"a\":\"2\",\"A\":\"3\"\x7d" =
      some (.object [("A", .string "1"), ("a", .string "2"), ("A", .string "3")]) := by
    simp [Json.read?, Json.readValue, Json.readMembers, Json.readString,
      Json.skipBlanks, Json.isBlank, Json.maxNesting]
  have hload : (Scope.ofJson? "\x7b\"A\":\"1\",\"a\":\"2\",\"A\":\"3\"\x7d").map NameMap.toList =
      some [("a", .text "2")] := by
    rw [Scope.ofJson?, hread]
    rfl
  have hset : NameMap.toList (.ofList [("A", Value.text "1"), ("a", .text "2"), ("A", .text "3")]) =
      [("a", .text "3")] := rfl
  refine ⟨hread, rfl, hload, hset, fun hsame => ?_⟩
  rw [hsame, Option.map_some, hset] at hload
  simp at hload

end TagTemplate
