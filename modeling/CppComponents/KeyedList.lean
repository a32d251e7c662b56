import Mathlib.Data.List.Induction
import Mathlib.Data.List.Nodup

/-!
# Lists with keys

An ordered container whose elements have keys, and whose `set` removes what has the
key of the new element and inserts it at the end. A container filled by `set` alone
never has two elements of one key (`Distinct`), so it has kept a list of elements
exactly if their keys are distinct: `sublist_setAll_iff`.
-/

namespace CppComponents.KeyedList

universe u v

variable {α : Type u} {κ : Type v} (key : α → κ)

/-- No two elements have the same key. -/
def Distinct (l : List α) : Prop := (l.map key).Nodup

variable {key} in
theorem Distinct.sublist {l l' : List α} (h : Distinct key l') (hle : l.Sublist l') :
    Distinct key l :=
  List.Nodup.sublist (hle.map key) h

variable [DecidableEq κ]

instance (l : List α) : Decidable (Distinct key l) := inferInstanceAs (Decidable (List.Nodup _))

def set (l : List α) (a : α) : List α := l.filter (fun b => key b ≠ key a) ++ [a]

/-- `set` for one element after the other. -/
def setAll (l : List α) (as : List α) : List α := as.foldl (set key) l

variable {key}

theorem Distinct.set {l : List α} (h : Distinct key l) (a : α) :
    Distinct key (KeyedList.set key l a) := by
  have hrest : Distinct key (l.filter fun b => key b ≠ key a) := h.sublist List.filter_sublist
  have hnew : key a ∉ (l.filter fun b => key b ≠ key a).map key := by
    intro hmem
    obtain ⟨b, hb, heq⟩ := List.mem_map.mp hmem
    exact absurd heq (by simpa using (List.mem_filter.mp hb).2)
  rw [Distinct, KeyedList.set, List.map_append]
  exact List.Nodup.append hrest (List.nodup_singleton _)
    (List.disjoint_singleton.mpr hnew)

theorem Distinct.setAll {l : List α} (h : Distinct key l) (as : List α) :
    Distinct key (setAll key l as) := by
  induction as generalizing l with
  | nil => exact h
  | cons a as ih => exact ih (h.set a)

/-- Elements whose keys are distinct are all kept. -/
theorem sublist_setAll {as : List α} (h : Distinct key as) (l : List α) :
    as.Sublist (setAll key l as) := by
  induction as using List.reverseRec with
  | nil => exact List.nil_sublist _
  | append_singleton as a ih =>
    rw [Distinct, List.map_append, List.nodup_append] at h
    obtain ⟨hdistinct, -, hnew⟩ := h
    have hkept : as.filter (fun b => key b ≠ key a) = as :=
      List.filter_eq_self.mpr fun b hb =>
        decide_eq_true (hnew (key b) (List.mem_map_of_mem hb) (key a) (by simp))
    have hfilter := (ih hdistinct).filter fun b => decide (key b ≠ key a)
    rw [hkept] at hfilter
    rw [setAll, List.foldl_append]
    exact hfilter.append (List.Sublist.refl [a])

/-- Of a key the container did not have, it has what it was given. -/
theorem filter_setAll {l : List α} {k : κ} (hl : ∀ a ∈ l, key a ≠ k) {as : List α}
    (h : Distinct key as) :
    (setAll key l as).filter (fun a => key a = k) = as.filter fun a => key a = k := by
  induction as using List.reverseRec with
  | nil => exact List.filter_eq_nil_iff.mpr fun a ha => by simpa using hl a ha
  | append_singleton as a ih =>
    rw [Distinct, List.map_append, List.nodup_append] at h
    obtain ⟨hdistinct, -, hnew⟩ := h
    have hlast : setAll key l (as ++ [a]) = set key (setAll key l as) a := by
      rw [setAll, List.foldl_append]
      rfl
    rw [hlast, set, List.filter_append, List.filter_append, List.filter_filter]
    congr 1
    by_cases ha : key a = k
    · -- neither list has another element of this key
      have hnone : as.filter (fun b => key b = k) = [] :=
        List.filter_eq_nil_iff.mpr fun b hb => by
          have hne := hnew (key b) (List.mem_map_of_mem hb) (key a) (by simp)
          simpa [← ha] using hne
      rw [hnone]
      exact List.filter_eq_nil_iff.mpr fun b _ => by simp [ha]
    · rw [← ih hdistinct]
      refine List.filter_congr fun b _ => ?_
      by_cases hb : key b = k
      · simp [hb, Ne.symm ha]
      · simp [hb]

/-- A list of two kinds that is kept where the kinds are apart has them apart. -/
theorem sublist_append_iff_of_apart {p : α → Bool} {l l₁ l₂ : List α}
    (h₁ : ∀ a ∈ l₁, p a = false) (h₂ : ∀ a ∈ l₂, p a = true) :
    l.Sublist (l₁ ++ l₂) ↔ l = l.filter (fun a => !p a) ++ l.filter p ∧
      (l.filter fun a => !p a).Sublist l₁ ∧ (l.filter p).Sublist l₂ := by
  constructor
  · intro h
    obtain ⟨k₁, k₂, rfl, hk₁, hk₂⟩ := List.sublist_append_iff.mp h
    have hnot₁ : k₁.filter p = [] :=
      List.filter_eq_nil_iff.mpr fun a ha => by simp [h₁ a (hk₁.subset ha)]
    have hnot₂ : (k₂.filter fun a => !p a) = [] :=
      List.filter_eq_nil_iff.mpr fun a ha => by simp [h₂ a (hk₂.subset ha)]
    have hall₁ : (k₁.filter fun a => !p a) = k₁ :=
      List.filter_eq_self.mpr fun a ha => by simp [h₁ a (hk₁.subset ha)]
    have hall₂ : k₂.filter p = k₂ :=
      List.filter_eq_self.mpr fun a ha => h₂ a (hk₂.subset ha)
    rw [List.filter_append, List.filter_append, hnot₁, hnot₂, hall₁, hall₂, List.append_nil,
      List.nil_append]
    exact ⟨rfl, hk₁, hk₂⟩
  · rintro ⟨heq, h₁, h₂⟩
    rw [heq]
    exact h₁.append h₂

/-- **What the container keeps.** -/
theorem sublist_setAll_iff {l : List α} (hl : Distinct key l) (as : List α) :
    as.Sublist (setAll key l as) ↔ Distinct key as :=
  ⟨fun h => (hl.setAll as).sublist h, fun h => sublist_setAll h l⟩

end CppComponents.KeyedList
