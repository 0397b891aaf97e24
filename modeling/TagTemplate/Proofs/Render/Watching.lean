import TagTemplate.Proofs.Render.Lockstep

/-!
# Watched and unwatched

A watched render keeps a journal, and does the same as one that is not watched. Both are runs side by
side whose books agree and stay within the limits (`Coupling.within`), so that no hook in the journal
begins with more blocks or more includes open than the limits allow.
-/

namespace TagTemplate

/-- The event is none of a hook that begins beyond the limits. -/
def Event.Within (limits : Limits) : Event → Prop
  | .hookBegins _ _ depth includeDepth =>
    depth ≤ limits.maxDepth ∧ includeDepth ≤ limits.maxIncludeDepth
  | _ => True

namespace Coupling

/-- How the journals of two runs can be related that do the same: it must not depend on the events,
as long as hooks begin within the limits. -/
structure Journals (limits : Limits) where
  related : Option (List Event) → Option (List Event) → Prop
  notes : ∀ {j j' : Option (List Event)}, related j j' → ∀ event, event.Within limits →
    related (j.map (event :: ·)) (j'.map (event :: ·))

/-- Two runs that do the same within the limits. -/
def within {limits : Limits} (journals : Journals limits) : Coupling limits where
  books b b' := b' = b ∧ b.depth ≤ limits.maxDepth ∧ b.includeDepth ≤ limits.maxIncludeDepth
  journals := journals.related
  forgiving := false
  same_view h := by
    rw [h.1]
    exact ⟨rfl, rfl⟩
  interpolate h flag := ⟨by rw [h.1], h.2⟩
  opened h hroom := ⟨by rw [h.1], hroom, h.2.2⟩
  begins h hjournals hook tag := by
    rw [h.1]
    exact journals.notes hjournals (.hookBegins hook tag _ _) h.2
  notes hjournals event hevent := by
    refine journals.notes hjournals event ?_
    cases event with
    | hookBegins => cases hevent
    | _ => exact trivial

theorem within_passing {limits : Limits} (journals : Journals limits) (r : Registry) :
    (within journals).Passing r := fun h => nomatch h

/-- The same journals. -/
def sameJournals (limits : Limits) : Journals limits where
  related j j' := j' = j
  notes h event _ := by rw [h]

/-- No journal of the first run, and one of the second with hooks within the limits. -/
def oneWatched (limits : Limits) : Journals limits where
  related j j' := j = none ∧ ∃ events, j' = some events ∧ ∀ event ∈ events, event.Within limits
  notes h event hevent := by
    obtain ⟨rfl, events, rfl, hevents⟩ := h
    exact ⟨rfl, event :: events, rfl, List.forall_mem_cons.mpr ⟨hevent, hevents⟩⟩

/-- The books of a render that begins are within all limits. -/
theorem start_within {limits : Limits} (journals : Journals limits) :
    (within journals).books ⟨false, 0, 0⟩ ⟨false, 0, 0⟩ :=
  ⟨rfl, Nat.zero_le _, Nat.zero_le _⟩

end Coupling

end TagTemplate
