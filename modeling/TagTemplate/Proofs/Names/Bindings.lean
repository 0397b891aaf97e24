import Mathlib.Data.List.Induction
import Mathlib.Data.List.Nodup
import TagTemplate.Variables.Scope

/-!
# The names that are bound

A map by name grows at its end: setting the value of a name leaves the names that are there in their
places, and the name comes after them if it is new. Names are folded when they are set, so a map
that was made by setting names holds each name once, and folded (`tidy_ofList`), in the place where
it was first set (`names_ofList`) and with the value that was set last (`get?_ofList`).
-/

namespace TagTemplate

namespace Text

/-- A small letter is no capital. -/
theorem toLower_toLower (c : Char) : c.toLower.toLower = c.toLower := by
  by_cases hcap : c.val ≥ 'A'.val ∧ c.val ≤ 'Z'.val
  · have hval : c.toLower.val = c.val + 32 :=
      congrArg Char.val (show c.toLower = _ from dif_pos hcap)
    -- the capitals are 65 to 90, so 32 above one of them there is none
    have hsmall : ¬ (c.toLower.val ≥ 'A'.val ∧ c.toLower.val ≤ 'Z'.val) := by
      have hbounds : 65 ≤ c.val.toNat ∧ c.val.toNat ≤ 90 :=
        hcap.imp UInt32.le_iff_toNat_le.mp UInt32.le_iff_toNat_le.mp
      have hadd : (c.val + 32).toNat = c.val.toNat + 32 := by
        rw [UInt32.toNat_add]
        exact Nat.mod_eq_of_lt (by show c.val.toNat + 32 < 4294967296; omega)
      rw [hval]
      rintro ⟨-, hle⟩
      have htop : (c.val + 32).toNat ≤ 90 := UInt32.le_iff_toNat_le.mp hle
      omega
    exact dif_neg hsmall
  · have hsame : c.toLower = c := dif_neg hcap
    rw [hsame, hsame]

/-- Folding a name twice is folding it once. -/
theorem foldAscii_foldAscii (s : String) : foldAscii (foldAscii s) = foldAscii s := by
  rw [foldAscii, foldAscii, String.toList_ofList, List.map_map]
  exact congrArg String.ofList (List.map_congr_left fun c _ => toLower_toLower c)

end Text

/-- A text that comes again is dropped, and a new one is the last. -/
theorem eraseDups_concat (texts : List String) (text : String) :
    (texts ++ [text]).eraseDups =
      if text ∈ texts then texts.eraseDups else texts.eraseDups ++ [text] := by
  rw [List.eraseDups_append, List.removeAll]
  by_cases hold : text ∈ texts
  · rw [if_pos hold, List.filter_cons_of_neg (by simpa using hold)]
    exact List.append_nil _
  · rw [if_neg hold, List.filter_cons_of_pos (by simpa using hold)]
    rfl

namespace OrderedMap

variable {α : Type}

/-- Setting a key that is there leaves the keys as they are, and a new key goes to the end. -/
theorem map_fst_put (key : String) (value : α) (entries : List (String × α)) :
    (put key value entries).map Prod.fst =
      if key ∈ entries.map Prod.fst then entries.map Prod.fst
      else entries.map Prod.fst ++ [key] := by
  induction entries with
  | nil => rfl
  | cons entry rest ih =>
    obtain ⟨k, v⟩ := entry
    rw [put]
    by_cases hkey : key = k
    · simp [hkey]
    · rw [if_neg hkey, List.map_cons, ih]
      simp only [List.map_cons, List.mem_cons, hkey, false_or]
      split <;> rfl

theorem keys_insert (m : OrderedMap α) (key : String) (value : α) :
    (m.insert key value).keys = if key ∈ m.keys then m.keys else m.keys ++ [key] :=
  map_fst_put key value m.entries

/-- A map that holds each key once does so after a key is set. -/
theorem nodup_keys_insert {m : OrderedMap α} (h : m.keys.Nodup) (key : String) (value : α) :
    (m.insert key value).keys.Nodup := by
  rw [keys_insert]
  split
  · exact h
  · next hnew =>
    rw [← List.concat_eq_append]
    exact List.Nodup.concat hnew h

/-- Where each key is there once, the value of an entry is the value of its key. -/
theorem get?_of_mem {m : OrderedMap α} (h : m.keys.Nodup) {key : String} {value : α}
    (hmem : (key, value) ∈ m.entries) : m.get? key = some value := by
  obtain ⟨entries⟩ := m
  induction entries with
  | nil => cases hmem
  | cons entry rest ih =>
    obtain ⟨hfirst, hrest⟩ := List.nodup_cons.mp h
    rcases List.mem_cons.mp hmem with rfl | hmem
    · exact List.lookup_cons_self
    · have hne : key ≠ entry.1 := by
        rintro rfl
        exact hfirst (List.mem_map.mpr ⟨_, hmem, rfl⟩)
      rw [get?, List.lookup_cons, beq_false_of_ne hne]
      exact ih hrest hmem

/-- A new key goes to the end with its value. -/
theorem put_of_notMem {key : String} {entries : List (String × α)}
    (h : key ∉ entries.map Prod.fst) (value : α) :
    put key value entries = entries ++ [(key, value)] := by
  induction entries with
  | nil => rfl
  | cons entry rest ih =>
    obtain ⟨k, v⟩ := entry
    rw [List.map_cons, List.mem_cons, not_or] at h
    rw [put, if_neg h.1, ih h.2]
    rfl

/-! ## Keys that are set more than once -/

theorem ofList_concat (entries : List (String × α)) (entry : String × α) :
    ofList (entries ++ [entry]) = (ofList entries).insert entry.1 entry.2 :=
  List.foldl_append

theorem nodup_keys_ofList (entries : List (String × α)) : (ofList entries).keys.Nodup := by
  induction entries using List.reverseRecOn with
  | nil => exact List.nodup_nil
  | append_singleton entries entry ih =>
    rw [ofList_concat]
    exact nodup_keys_insert ih entry.1 entry.2

/-- A key that is set again keeps its first place. -/
theorem keys_ofList (entries : List (String × α)) :
    (ofList entries).keys = (entries.map Prod.fst).eraseDups := by
  induction entries using List.reverseRecOn with
  | nil => rfl
  | append_singleton entries entry ih =>
    rw [ofList_concat, keys_insert, List.map_append, List.map_singleton, eraseDups_concat, ih]
    simp only [List.mem_eraseDups]

/-- And it has its last value. -/
theorem get?_ofList (entries : List (String × α)) (key : String) :
    (ofList entries).get? key =
      (entries.reverse.find? fun entry => entry.1 == key).map Prod.snd := by
  induction entries using List.reverseRecOn with
  | nil => rfl
  | append_singleton entries entry ih =>
    rw [ofList_concat, List.reverse_append, List.reverse_singleton, List.singleton_append,
      List.find?_cons]
    by_cases hkey : key = entry.1
    · rw [hkey, get?_insert_self, beq_self_eq_true]
      rfl
    · rw [get?_insert_of_ne _ hkey, beq_false_of_ne (Ne.symm hkey), ih]

/-- Setting keys that are new, and distinct, adds them in their order. -/
theorem ofList_of_nodup {entries : List (String × α)} (h : (entries.map Prod.fst).Nodup) :
    ofList entries = ⟨entries⟩ := by
  induction entries using List.reverseRecOn with
  | nil => rfl
  | append_singleton entries entry ih =>
    rw [List.map_append, List.map_singleton, ← List.concat_eq_append, List.nodup_concat] at h
    rw [ofList_concat, ih h.2, insert, put_of_notMem h.1]

end OrderedMap

namespace NameMap

variable {α : Type}

/-- The names in order. -/
def names (m : NameMap α) : List String := m.bindings.keys

/-- Each name is there once, and folded. -/
structure Tidy (m : NameMap α) : Prop where
  distinct : m.names.Nodup
  folded : ∀ name ∈ m.names, Text.foldAscii name = name

theorem names_insert (m : NameMap α) (name : String) (value : α) :
    (m.insert name value).names =
      if Text.foldAscii name ∈ m.names then m.names else m.names ++ [Text.foldAscii name] :=
  m.bindings.keys_insert (Text.foldAscii name) value

/-- No name is lost in setting one. -/
theorem names_prefix_insert (m : NameMap α) (name : String) (value : α) :
    m.names <+: (m.insert name value).names := by
  rw [names_insert]
  split
  · exact List.prefix_rfl
  · exact List.prefix_append _ _

theorem Tidy.insert {m : NameMap α} (h : m.Tidy) (name : String) (value : α) :
    (m.insert name value).Tidy where
  distinct := OrderedMap.nodup_keys_insert h.distinct (Text.foldAscii name) value
  folded := by
    rw [names_insert]
    split
    · exact h.folded
    · intro other hother
      rcases List.mem_append.mp hother with hold | hnew
      · exact h.folded other hold
      · rw [List.mem_singleton.mp hnew]
        exact Text.foldAscii_foldAscii name

theorem tidy_empty : (empty : NameMap α).Tidy := ⟨List.nodup_nil, List.forall_mem_nil _⟩

/-- Setting a name leaves the others as they are. -/
theorem get?_insert_of_ne (m : NameMap α) {name other : String}
    (h : Text.foldAscii other ≠ Text.foldAscii name) (value : α) :
    (m.insert name value).get? other = m.get? other :=
  m.bindings.get?_insert_of_ne h value

/-! ## Names that are set more than once -/

/-- Setting names is setting the keys that they fold to. -/
theorem bindings_ofList (entries : List (String × α)) : (ofList entries).bindings =
    .ofList (entries.map fun entry => (Text.foldAscii entry.1, entry.2)) := by
  rw [OrderedMap.ofList, List.foldl_map]
  exact (List.foldl_hom bindings fun _ _ => rfl).symm

/-- A name that is set again keeps its first place. -/
theorem names_ofList (entries : List (String × α)) :
    (ofList entries).names = (entries.map fun entry => Text.foldAscii entry.1).eraseDups := by
  rw [names, bindings_ofList, OrderedMap.keys_ofList, List.map_map]
  rfl

/-- And it has its last value. -/
theorem get?_ofList (entries : List (String × α)) (name : String) :
    (ofList entries).get? name =
      (entries.reverse.find? fun entry => Text.foldAscii entry.1 == Text.foldAscii name).map
        Prod.snd := by
  rw [get?, bindings_ofList, OrderedMap.get?_ofList, ← List.map_reverse, List.find?_map,
    Option.map_map]
  rfl

/-- Whatever names are set, each is there once and folded. -/
theorem tidy_ofList (entries : List (String × α)) : (ofList entries).Tidy where
  distinct := by
    rw [names, bindings_ofList]
    exact OrderedMap.nodup_keys_ofList _
  folded := by
    intro name hname
    rw [names_ofList, List.mem_eraseDups, List.mem_map] at hname
    obtain ⟨entry, -, rfl⟩ := hname
    exact Text.foldAscii_foldAscii entry.1

/-- Setting the names of a map to their values makes this map. -/
theorem Tidy.ofList_toList {m : NameMap α} (h : m.Tidy) : ofList m.toList = m := by
  have hfolded : (m.toList.map fun entry => (Text.foldAscii entry.1, entry.2)) = m.toList := by
    calc m.toList.map (fun entry => (Text.foldAscii entry.1, entry.2))
      _ = m.toList.map id := List.map_congr_left fun entry hentry =>
          Prod.ext (h.folded entry.1 (List.mem_map_of_mem hentry)) rfl
      _ = m.toList := List.map_id _
  have hbindings : (ofList m.toList).bindings = m.bindings := by
    rw [bindings_ofList, hfolded]
    exact OrderedMap.ofList_of_nodup h.distinct
  exact congrArg NameMap.mk hbindings

end NameMap

end TagTemplate
