/-!
# Maps in order of first insertion

A map from texts that remembers in which order its keys first came. Writing to a key that is
there changes the value in place; a new key goes to the end; erasing keeps the order of the rest.
-/

namespace TagTemplate

/-- Keys with their values, in order of first insertion. -/
structure OrderedMap (α : Type) where
  entries : List (String × α) := []
deriving Repr, DecidableEq, Inhabited

namespace OrderedMap

variable {α : Type}

/-- The map without keys. -/
def empty : OrderedMap α := ⟨[]⟩

/-- The value of a key. -/
def get? (m : OrderedMap α) (key : String) : Option α := m.entries.lookup key

/-- Whether the key is there. -/
def contains (m : OrderedMap α) (key : String) : Bool := (m.get? key).isSome

/-- Sets the value of a key in a list of entries, at its place or else at the end. -/
def put (key : String) (value : α) : List (String × α) → List (String × α)
  | [] => [(key, value)]
  | (k, v) :: rest => if key = k then (k, value) :: rest else (k, v) :: put key value rest

/-- Sets the value of a key. -/
def insert (m : OrderedMap α) (key : String) (value : α) : OrderedMap α :=
  ⟨put key value m.entries⟩

/-- The map that setting one key after the other makes. -/
def ofList (entries : List (String × α)) : OrderedMap α :=
  entries.foldl (fun m entry => m.insert entry.1 entry.2) empty

/-- Drops a key. -/
def erase (m : OrderedMap α) (key : String) : OrderedMap α :=
  ⟨m.entries.filter fun entry => entry.1 ≠ key⟩

/-- The keys in order. -/
def keys (m : OrderedMap α) : List String := m.entries.map Prod.fst

/-- The number of keys. -/
def size (m : OrderedMap α) : Nat := m.entries.length

def isEmpty (m : OrderedMap α) : Bool := m.entries.isEmpty

theorem lookup_put_self (key : String) (value : α) (entries : List (String × α)) :
    (put key value entries).lookup key = some value := by
  induction entries with
  | nil => simp [put]
  | cons entry rest ih =>
    obtain ⟨k, v⟩ := entry
    by_cases h : key = k
    · simp [put, h]
    · have hb : (key == k) = false := beq_false_of_ne h
      simp [put, h, ih, List.lookup_cons, hb]

theorem lookup_put_of_ne {key other : String} (h : other ≠ key) (value : α)
    (entries : List (String × α)) :
    (put key value entries).lookup other = entries.lookup other := by
  have hb : (other == key) = false := beq_false_of_ne h
  induction entries with
  | nil => simp [put, List.lookup_cons, hb]
  | cons entry rest ih =>
    obtain ⟨k, v⟩ := entry
    by_cases hk : key = k
    · subst hk
      simp [put, List.lookup_cons, hb]
    · simp only [put, hk, if_false, List.lookup_cons, ih]

/-- The key that was set has the value that was set. -/
@[simp]
theorem get?_insert_self (m : OrderedMap α) (key : String) (value : α) :
    (m.insert key value).get? key = some value :=
  lookup_put_self key value m.entries

/-- Setting one key leaves the others as they are. -/
theorem get?_insert_of_ne (m : OrderedMap α) {key other : String} (h : other ≠ key) (value : α) :
    (m.insert key value).get? other = m.get? other :=
  lookup_put_of_ne h value m.entries

end OrderedMap

end TagTemplate
