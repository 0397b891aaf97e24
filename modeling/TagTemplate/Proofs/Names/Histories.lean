import TagTemplate.Proofs.Names.Bindings

/-!
# What a map by name holds

A map by name is asked one thing after another: to set a name, to remove one, for the value of one
or whether it is there. What it then holds under a name is a matter of the history of these requests
alone, namely of the last one that set or removed the name in any case of its letters (`left`). The
places of the names follow from each request in turn: a name keeps its place when it is set again, a
new one goes to the end, and the rest close up behind one that is removed
(`NameMap.holds_history`).
-/

namespace TagTemplate

namespace OrderedMap

variable {α : Type}

theorem mem_keys_iff {m : OrderedMap α} {key : String} :
    key ∈ m.keys ↔ (m.get? key).isSome = true := by
  rw [get?, List.lookup_isSome_iff, keys, List.mem_map]
  exact exists_congr fun entry => and_congr_right fun _ => by rw [beq_iff_eq, eq_comm]

/-- Setting a key that is there once changes its value and nothing else. -/
theorem put_of_mem {key : String} {entries : List (String × α)}
    (h : (entries.map Prod.fst).Nodup) (hmem : key ∈ entries.map Prod.fst) (value : α) :
    put key value entries =
      entries.map fun entry => if entry.1 = key then (entry.1, value) else entry := by
  induction entries with
  | nil => cases hmem
  | cons entry rest ih =>
    obtain ⟨k, v⟩ := entry
    obtain ⟨hfirst, hrest⟩ := List.nodup_cons.mp h
    rw [put, List.map_cons]
    by_cases hkey : key = k
    · subst hkey
      have hsame : ∀ entry ∈ rest,
          (if entry.1 = key then (entry.1, value) else entry) = entry := by
        intro entry hentry
        refine if_neg ?_
        rintro rfl
        exact hfirst (List.mem_map.mpr ⟨_, hentry, rfl⟩)
      rw [if_pos rfl, if_pos rfl, List.map_congr_left hsame, List.map_id']
    · have hmem : key ∈ rest.map Prod.fst := (List.mem_cons.mp hmem).resolve_left hkey
      rw [if_neg hkey, if_neg (Ne.symm hkey), ih hrest hmem]

/-- A key that was dropped is not there. -/
theorem get?_erase_self (m : OrderedMap α) (key : String) : (m.erase key).get? key = none := by
  rw [get?, List.lookup_eq_none_iff]
  intro entry hentry
  have hne := (List.mem_filter.mp hentry).2
  rw [bne_iff_ne]
  exact Ne.symm (of_decide_eq_true hne)

/-- Dropping one key leaves the others as they are. -/
theorem get?_erase_of_ne (m : OrderedMap α) {key other : String} (h : other ≠ key) :
    (m.erase key).get? other = m.get? other := by
  rw [get?, get?, erase]
  induction m.entries with
  | nil => rfl
  | cons entry rest ih =>
    by_cases hkey : entry.1 = key
    · have hne : (other == entry.1) = false := beq_false_of_ne (hkey ▸ h)
      rw [List.filter_cons_of_neg (by simpa using hkey), List.lookup_cons, hne]
      exact ih
    · rw [List.filter_cons_of_pos (by simpa using hkey), List.lookup_cons, List.lookup_cons, ih]

theorem keys_erase (m : OrderedMap α) (key : String) :
    (m.erase key).keys = m.keys.filter fun other => other ≠ key := by
  rw [keys, keys, List.filter_map]
  rfl

end OrderedMap

namespace NameMap

variable {α : Type}

/-! ## Requests -/

/-- What a map by name can be asked. -/
inductive Request (α : Type) where
  | set (name : String) (value : α)
  | remove (name : String)
  | get (name : String)
  | contains (name : String)

/-- What a map by name answers: a value, if there is one, or whether there is one. -/
inductive Answer (α : Type) where
  | value (value? : Option α)
  | isThere (found : Bool)
deriving DecidableEq

/-- The name that a request is about. -/
def Request.name : Request α → String
  | .set name _ => name
  | .remove name => name
  | .get name => name
  | .contains name => name

/-- The answer to a request and the map after it. Who sets or removes a name is given the value that
was there. -/
def perform (m : NameMap α) : Request α → Answer α × NameMap α
  | .set name value => (.value (m.get? name), m.insert name value)
  | .remove name => (.value (m.get? name), m.erase name)
  | .get name => (.value (m.get? name), m)
  | .contains name => (.isThere (m.contains name), m)

/-- The map after some requests. -/
def after (m : NameMap α) (requests : List (Request α)) : NameMap α :=
  requests.foldl (fun m request => (m.perform request).2) m

/-! ## Histories -/

/-- What a request does to a name: it sets or removes its value, or it leaves it as it is. -/
def Request.effect? (name : String) : Request α → Option (Option α)
  | .set other value =>
    if Text.foldAscii other = Text.foldAscii name then some (some value) else none
  | .remove other => if Text.foldAscii other = Text.foldAscii name then some none else none
  | .get _ => none
  | .contains _ => none

/-- The value that a history leaves a name: the one that was set last, if it was not removed after
that. -/
def left (history : List (Request α)) (name : String) : Option α :=
  (history.reverse.findSome? (Request.effect? name)).join

/-- The answer to a request after a history. -/
def answerTo (history : List (Request α)) : Request α → Answer α
  | .contains name => .isThere (left history name).isSome
  | request => .value (left history request.name)

/-- What a request does to the names and values in order. A name keeps its place when its value is
set again, and a new one goes to the end. -/
def Request.rearrange (entries : List (String × α)) : Request α → List (String × α)
  | .set name value =>
    if Text.foldAscii name ∈ entries.map Prod.fst then
      entries.map fun entry => if entry.1 = Text.foldAscii name then (entry.1, value) else entry
    else entries ++ [(Text.foldAscii name, value)]
  | .remove name => entries.filter fun entry => entry.1 ≠ Text.foldAscii name
  | .get _ => entries
  | .contains _ => entries

/-- What a map holds after a history: each name that was left a value, once and in small letters,
with this value. -/
structure Holds (m : NameMap α) (history : List (Request α)) : Prop where
  tidy : m.Tidy
  stored : ∀ name, Text.foldAscii name ∈ m.names ↔ (left history name).isSome = true
  value : ∀ name, m.get? name = left history name
  found : ∀ name, m.contains name = (left history name).isSome
  size : m.size = m.names.length

theorem left_concat (history : List (Request α)) (request : Request α) (name : String) :
    left (history ++ [request]) name = (request.effect? name).getD (left history name) := by
  rw [left, List.reverse_append, List.reverse_singleton, List.singleton_append,
    List.findSome?_cons]
  cases request.effect? name with
  | none => rfl
  | some value? => rfl

theorem get?_insert (m : NameMap α) (name other : String) (value : α) :
    (m.insert name value).get? other =
      if Text.foldAscii name = Text.foldAscii other then some value else m.get? other := by
  by_cases hname : Text.foldAscii name = Text.foldAscii other
  · rw [if_pos hname, get?, ← hname]
    exact m.bindings.get?_insert_self (Text.foldAscii name) value
  · rw [if_neg hname, get?_insert_of_ne m (Ne.symm hname)]

theorem get?_erase (m : NameMap α) (name other : String) :
    (m.erase name).get? other =
      if Text.foldAscii name = Text.foldAscii other then none else m.get? other := by
  by_cases hname : Text.foldAscii name = Text.foldAscii other
  · rw [if_pos hname, get?, ← hname]
    exact m.bindings.get?_erase_self (Text.foldAscii name)
  · rw [if_neg hname]
    exact m.bindings.get?_erase_of_ne (Ne.symm hname)

/-- A request has its effect on the name that it is about, and none on other names. -/
theorem get?_perform (m : NameMap α) (request : Request α) (name : String) :
    (m.perform request).2.get? name = (request.effect? name).getD (m.get? name) := by
  cases request with
  | set other value =>
    rw [perform, get?_insert, Request.effect?]
    split <;> rfl
  | remove other =>
    rw [perform, get?_erase, Request.effect?]
    split <;> rfl
  | get other => rfl
  | contains other => rfl

theorem effect?_of_ne {request : Request α} {name : String}
    (h : Text.foldAscii name ≠ Text.foldAscii request.name) : request.effect? name = none := by
  cases request with
  | set other value => exact if_neg (Ne.symm h)
  | remove other => exact if_neg (Ne.symm h)
  | get other => rfl
  | contains other => rfl

theorem Tidy.erase {m : NameMap α} (h : m.Tidy) (name : String) : (m.erase name).Tidy where
  distinct := by
    rw [names, NameMap.erase, OrderedMap.keys_erase]
    exact h.distinct.filter _
  folded := by
    rw [names, NameMap.erase, OrderedMap.keys_erase]
    exact fun other hother => h.folded other (List.mem_filter.mp hother).1

theorem Tidy.perform {m : NameMap α} (h : m.Tidy) (request : Request α) :
    (m.perform request).2.Tidy := by
  cases request with
  | set name value => exact h.insert name value
  | remove name => exact h.erase name
  | get name => exact h
  | contains name => exact h

theorem Tidy.toList_perform {m : NameMap α} (h : m.Tidy) (request : Request α) :
    (m.perform request).2.toList = request.rearrange m.toList := by
  cases request with
  | set name value =>
    rw [Request.rearrange]
    split
    · next hold => exact OrderedMap.put_of_mem h.distinct hold value
    · next hnew => exact OrderedMap.put_of_notMem hnew value
  | remove name => rfl
  | get name => rfl
  | contains name => rfl

/-! ## All requests -/

theorem after_concat (m : NameMap α) (requests : List (Request α)) (request : Request α) :
    m.after (requests ++ [request]) = ((m.after requests).perform request).2 :=
  List.foldl_append

theorem after_append (m : NameMap α) (requests requests' : List (Request α)) :
    m.after (requests ++ requests') = (m.after requests).after requests' :=
  List.foldl_append

/-- A map that is made from names and values is one that these were set in. -/
theorem ofList_eq_after (entries : List (String × α)) :
    ofList entries = empty.after (entries.map fun entry => .set entry.1 entry.2) := by
  rw [after, List.foldl_map]
  rfl

theorem tidy_after (history : List (Request α)) : (empty.after history).Tidy := by
  induction history using List.reverseRecOn with
  | nil => exact tidy_empty
  | append_singleton history request ih =>
    rw [after_concat]
    exact ih.perform request

theorem get?_after (history : List (Request α)) (name : String) :
    (empty.after history).get? name = left history name := by
  induction history using List.reverseRecOn with
  | nil => rfl
  | append_singleton history request ih => rw [after_concat, get?_perform, left_concat, ih]

theorem holds_after (history : List (Request α)) : (empty.after history).Holds history where
  tidy := tidy_after history
  stored name := by
    rw [← get?_after]
    exact OrderedMap.mem_keys_iff
  value := get?_after history
  found name := congrArg Option.isSome (get?_after history name)
  size := (List.length_map _).symm

theorem Holds.answer {m : NameMap α} {history : List (Request α)} (h : m.Holds history)
    (request : Request α) : (m.perform request).1 = answerTo history request := by
  cases request with
  | set name value => exact congrArg Answer.value (h.value name)
  | remove name => exact congrArg Answer.value (h.value name)
  | get name => exact congrArg Answer.value (h.value name)
  | contains name => exact congrArg Answer.isThere (h.found name)

/-- Whatever a map was made from and asked since then, it holds what this history leaves. The next
request is answered by the history, has the names and values rearranged in its own way, and leaves
every other name its value. -/
theorem holds_history (entries : List (String × α)) (requests : List (Request α)) :
    let m := (ofList entries).after requests
    let history := (entries.map fun entry => .set entry.1 entry.2) ++ requests
    m.Holds history ∧ ∀ request : Request α,
      (m.perform request).1 = answerTo history request ∧
        (m.perform request).2.toList = request.rearrange m.toList ∧
        ∀ other, Text.foldAscii other ≠ Text.foldAscii request.name →
          (m.perform request).2.get? other = m.get? other ∧
            (m.perform request).2.contains other = m.contains other := by
  intro m history
  have hm : m = empty.after history := by
    rw [after_append, ← ofList_eq_after]
  have hholds : m.Holds history := hm ▸ holds_after history
  refine ⟨hholds, fun request => ⟨hholds.answer request, hholds.tidy.toList_perform request, ?_⟩⟩
  intro other hother
  have hvalue : (m.perform request).2.get? other = m.get? other := by
    rw [get?_perform, effect?_of_ne hother]
    rfl
  exact ⟨hvalue, congrArg Option.isSome hvalue⟩

/-- A name that is set again in other letters keeps its place, and one that is removed and set again
loses it. -/
theorem holds_history_of_letters :
    let m := (ofList [("Title", 1), ("n", 2)]).after [.remove "TITLE", .set "title" 3]
    (m.perform (.set "N" 4)).1 = .value (some 2) ∧
      (m.perform (.set "N" 4)).2.toList = [("n", 4), ("title", 3)] ∧
      (m.perform (.set "N" 4)).2.get? "TiTle" = some 3 := by
  obtain ⟨hholds, hnext⟩ :=
    holds_history [("Title", 1), ("n", 2)] [.remove "TITLE", .set "title" 3]
  obtain ⟨hanswer, hplaces, hothers⟩ := hnext (.set "N" 4)
  have hother : Text.foldAscii "TiTle" ≠ Text.foldAscii "N" := by decide +kernel
  have htitle := (hothers "TiTle" hother).1.trans (hholds.value "TiTle")
  refine ⟨hanswer.trans ?_, hplaces.trans ?_, htitle.trans ?_⟩
  · decide +kernel
  · decide +kernel
  · decide +kernel

end NameMap

end TagTemplate
