import Mathlib.Data.List.Basic

/-!
# Pending operations

A component that runs on an executor has a list of asynchronous operations that
were started and have not completed. An operation is appended when it is
started and removed when its completion handler is called. What a component
knows of its operations it knows of a selection of them (those of one attempt,
of one generation, of one kind), `l.filterMap f`. These are the facts about
such a selection that the components use.
-/

namespace CppComponents.Pending

variable {α β : Type} {f : α → Option β}

/-- At most one selected operation: no two of the list are selected. -/
theorem pairwise_of_length_filterMap_le_one {l : List α} (h : (l.filterMap f).length ≤ 1) :
    l.Pairwise fun a b => f a = none ∨ f b = none := by
  induction l with
  | nil => exact .nil
  | cons a l ih =>
    cases hfa : f a with
    | none =>
      rw [List.filterMap_cons_none hfa] at h
      exact List.pairwise_cons.mpr ⟨fun b _ => .inl hfa, ih h⟩
    | some c =>
      rw [List.filterMap_cons_some hfa, List.length_cons] at h
      have hnil : l.filterMap f = [] := List.length_eq_zero_iff.mp (by omega)
      refine List.pairwise_cons.mpr ⟨fun b hb => .inr ?_, ih (by simp [hnil])⟩
      exact List.filterMap_eq_nil_iff.mp hnil b hb

variable [DecidableEq α] {a : α}

/-- An operation completes that is not selected. -/
theorem filterMap_erase_of_none (h : f a = none) (l : List α) :
    (l.erase a).filterMap f = l.filterMap f := by
  induction l with
  | nil => rfl
  | cons b l ih =>
    by_cases hab : b = a
    · subst hab
      rw [List.erase_cons_head, List.filterMap_cons_none h]
    · rw [List.erase_cons_tail (by simpa using hab), List.filterMap_cons, List.filterMap_cons, ih]

/-- An operation completes that is selected as `b`, which no other is. -/
theorem filterMap_erase_of_injective {b : β} [DecidableEq β] (h : f a = some b)
    (hinjective : ∀ x, f x = some b → x = a) (l : List α) :
    (l.erase a).filterMap f = (l.filterMap f).erase b := by
  induction l with
  | nil => rfl
  | cons x l ih =>
    by_cases hxa : x = a
    · subst hxa
      rw [List.erase_cons_head, List.filterMap_cons_some h, List.erase_cons_head]
    · rw [List.erase_cons_tail (by simpa using hxa)]
      cases hx : f x with
      | none => rw [List.filterMap_cons_none hx, List.filterMap_cons_none hx, ih]
      | some y =>
        have hyb : y ≠ b := fun heq => hxa (hinjective x (heq ▸ hx))
        rw [List.filterMap_cons_some hx, List.filterMap_cons_some hx,
          List.erase_cons_tail (by simpa using hyb), ih]

/-- The only selected operation completes. -/
theorem filterMap_erase_of_singleton {b c : β} {l : List α} (ha : a ∈ l) (h : f a = some b)
    (hl : l.filterMap f = [c]) : (l.erase a).filterMap f = [] := by
  have hlen := ((List.perm_cons_erase ha).filterMap f).length_eq
  rw [hl, List.filterMap_cons_some h] at hlen
  exact List.length_eq_zero_iff.mp (by simpa using hlen.symm)

/-- A completion leaves nothing selected that was not selected before. -/
theorem filterMap_erase_eq_nil {l : List α} (hl : l.filterMap f = []) :
    (l.erase a).filterMap f = [] := by
  refine List.eq_nil_iff_forall_not_mem.mpr fun b hb => ?_
  obtain ⟨x, hx, hfx⟩ := List.mem_filterMap.mp hb
  have hmem : b ∈ l.filterMap f := List.mem_filterMap.mpr ⟨x, List.mem_of_mem_erase hx, hfx⟩
  rw [hl] at hmem
  cases hmem

end CppComponents.Pending
