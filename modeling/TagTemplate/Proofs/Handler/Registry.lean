import TagTemplate.Handler.Registry
import TagTemplate.Proofs.Names.Bindings

/-!
# What registering changes

Registering a handler changes what one name refers to and leaves every other name alone. So what
holds of each handler that is registered holds of each one that is found (`of_get?_registerAll`).
Whatever a name in a source refers to, it is a name that is registered (`get?_of_table`).
-/

namespace TagTemplate.Registry

variable {r : Registry}

/-- The handler that was registered last under a name is the one that is found. -/
theorem get?_register_self (r : Registry) (name : String) (handler : Handler) :
    (r.register name handler).get? (Text.foldAscii name) = some handler :=
  r.handlers.get?_insert_self (Text.foldAscii name) handler

/-- Registering a handler leaves other names as they are. -/
theorem get?_register_of_ne (r : Registry) {name other : String}
    (h : other ≠ Text.foldAscii name) (handler : Handler) :
    (r.register name handler).get? other = r.get? other :=
  r.handlers.get?_insert_of_ne h handler

/-- What holds of all handlers and their names holds of them after another one is registered of
which it holds. -/
theorem of_get?_register {P : String → Handler → Prop}
    (hr : ∀ name h, r.get? name = some h → P name h) (name : String) {handler : Handler}
    (hhandler : P (Text.foldAscii name) handler) :
    ∀ other h, (r.register name handler).get? other = some h → P other h := by
  intro other h hget
  by_cases hname : other = Text.foldAscii name
  · rw [hname, get?_register_self] at hget
    cases hget
    rw [hname]
    exact hhandler
  · rw [get?_register_of_ne r hname] at hget
    exact hr other h hget

/-- What holds of all handlers and names that are registered one after the other holds of each that
is found. -/
theorem of_get?_registerEach {P : String → Handler → Prop}
    (hr : ∀ name h, r.get? name = some h → P name h) {entries : List (String × Handler)}
    (hentries : ∀ entry ∈ entries, P (Text.foldAscii entry.1) entry.2) :
    ∀ name h,
      (entries.foldl (fun r entry => r.register entry.1 entry.2) r).get? name = some h →
        P name h := by
  induction entries generalizing r with
  | nil => exact hr
  | cons entry rest ih =>
    have hfirst := of_get?_register hr entry.1 (hentries entry (List.mem_cons_self ..))
    exact ih hfirst fun e he => hentries e (List.mem_cons_of_mem _ he)

/-- So does what holds of all handlers, whatever their names. -/
theorem of_get?_registerAll {P : Handler → Prop} (hr : ∀ name h, r.get? name = some h → P h)
    {entries : List (String × Handler)} (hentries : ∀ entry ∈ entries, P entry.2) :
    ∀ name h,
      (entries.foldl (fun r entry => r.register entry.1 entry.2) r).get? name = some h → P h :=
  @of_get?_registerEach r (fun _ h => P h) hr entries hentries

/-- Registers handlers one after the other. -/
def registerAll (r : Registry) (entries : List (String × Handler)) : Registry :=
  entries.foldl (fun r entry => r.register entry.1 entry.2) r

/-- A name that is registered stays so. -/
theorem isSome_get?_register (r : Registry) (name : String) (handler : Handler) {other : String}
    (h : (r.get? other).isSome = true) : ((r.register name handler).get? other).isSome = true := by
  by_cases hname : other = Text.foldAscii name
  · rw [hname, get?_register_self]
    rfl
  · rw [get?_register_of_ne r hname]
    exact h

theorem isSome_get?_registerAll (r : Registry) (entries : List (String × Handler)) {other : String}
    (h : (r.get? other).isSome = true) : ((r.registerAll entries).get? other).isSome = true := by
  induction entries generalizing r with
  | nil => exact h
  | cons entry rest ih => exact ih _ (r.isSome_get?_register entry.1 entry.2 h)

/-- However handlers are registered, each name is registered once. -/
theorem nodup_names_registerAll (h : r.names.Nodup) (entries : List (String × Handler)) :
    (r.registerAll entries).names.Nodup := by
  induction entries generalizing r with
  | nil => exact h
  | cons entry rest ih => exact ih (OrderedMap.nodup_keys_insert h (Text.foldAscii entry.1) entry.2)

/-! ## What names refer to -/

section

variable {written name : String} {handler : Handler}

/-- A name refers to the handler that is registered under it. -/
theorem resolve?_of_get? (h : r.get? (Text.foldAscii written) = some handler) :
    r.resolve? written = some (Text.foldAscii written, handler) := by
  have hfound : r.handlers.get? (Text.foldAscii written) = some handler := h
  simp only [resolve?, hfound]

/-- Without one, it refers to the first handler that answers to it. -/
theorem resolve?_of_get?_none (h : r.get? (Text.foldAscii written) = none) :
    r.resolve? written =
      r.handlers.entries.find? fun entry => entry.2.answersTo (Text.foldAscii written) := by
  have hnone : r.handlers.get? (Text.foldAscii written) = none := h
  simp only [resolve?, hnone]

/-- Either way, it is one of the registry. -/
theorem mem_entries_of_resolve? (h : r.resolve? written = some (name, handler)) :
    r.get? name = some handler ∨ (name, handler) ∈ r.handlers.entries := by
  cases hfound : r.get? (Text.foldAscii written) with
  | some found =>
    rw [resolve?_of_get? hfound] at h
    cases h
    exact .inl hfound
  | none =>
    rw [resolve?_of_get?_none hfound] at h
    exact .inr (List.mem_of_find?_eq_some h)

/-- The handler that a name in a source refers to is the one of the name that it is resolved to. -/
theorem get?_of_resolve? (h : r.names.Nodup)
    (hresolve : r.resolve? written = some (name, handler)) : r.get? name = some handler :=
  (mem_entries_of_resolve? hresolve).elim id (OrderedMap.get?_of_mem h)

/-- A name in a source refers to a name that is registered. -/
theorem get?_of_table {info : TagInfo} (h : r.table written = some info) :
    ∃ handler, r.get? info.name = some handler := by
  obtain ⟨⟨name, handler⟩, hresolve, rfl⟩ := Option.map_eq_some_iff.mp h
  rcases mem_entries_of_resolve? hresolve with hget | hmem
  · exact ⟨handler, hget⟩
  · have hsome : (r.handlers.entries.lookup name).isSome = true :=
      List.lookup_isSome_iff.mpr ⟨_, hmem, beq_self_eq_true name⟩
    exact Option.isSome_iff_exists.mp hsome

end

end TagTemplate.Registry
