import Mathlib.Data.List.DropRight
import Mathlib.Data.List.TakeWhile

/-!
# Splitting and trimming

What parsers of lines and of addresses are made of: a list is split at the first
or at the last occurrence of a separator, cut before the first element of some
kind, and trimmed at both ends. The two ends may be trimmed of different
elements. The lemmas say what these do to a list that was put together, and what
shape their results have.
-/

namespace CppComponents.Tokens

universe u

variable {α : Type u}

/-! ## Cutting before the first element of a kind -/

/-- `l` is cut where `p` holds for the first time, or nowhere. -/
theorem takeWhile_not_append {p : α → Bool} {l rest : List α} (hl : ∀ a ∈ l, p a = false)
    (hrest : ∀ a ∈ rest.head?, p a = true) :
    (l ++ rest).takeWhile (fun a => !p a) = l := by
  rw [List.takeWhile_append_of_pos fun a ha => by simp [hl a ha]]
  cases rest with
  | nil => simp
  | cons a rest =>
    have ha : p a = true := hrest a rfl
    simp [ha]

/-! ## Trimming -/

variable {lead trail : α → Bool}

/-- The list without the `trail` elements at its end and, then, without the `lead`
elements at its start. -/
def trim (lead trail : α → Bool) (l : List α) : List α := (l.rdropWhile trail).dropWhile lead

/-- There is nothing to trim. -/
structure Trimmed (lead trail : α → Bool) (l : List α) : Prop where
  head : ∀ a ∈ l.head?, lead a = false
  last : ∀ a ∈ l.getLast?, trail a = false

theorem Trimmed.dropWhile {l : List α} (h : Trimmed lead trail l) : l.dropWhile lead = l := by
  cases l with
  | nil => rfl
  | cons a l =>
    have ha : lead a = false := h.head a rfl
    simp [ha]

theorem Trimmed.rdropWhile {l : List α} (h : Trimmed lead trail l) : l.rdropWhile trail = l :=
  List.rdropWhile_eq_self_iff.mpr fun hne => by
    simp [h.last (l.getLast hne) (List.getLast?_eq_getLast_of_ne_nil hne)]

theorem trimmed_trim (l : List α) : Trimmed lead trail (trim lead trail l) where
  head := by
    intro a ha
    have hhead := List.head?_dropWhile_not lead (l.rdropWhile trail)
    rw [show (l.rdropWhile trail).dropWhile lead = trim lead trail l from rfl, ha] at hhead
    simpa using hhead
  last := by
    intro a ha
    have hne : trim lead trail l ≠ [] := fun hnil => by simp [hnil] at ha
    have hsuffix : trim lead trail l <:+ l.rdropWhile trail := List.dropWhile_suffix lead
    have hne' : l.rdropWhile trail ≠ [] := fun hnil => hne (by simpa [hnil] using hsuffix)
    have hlast := List.rdropWhile_last_not trail l hne'
    rw [← hsuffix.getLast hne] at hlast
    rw [List.getLast?_eq_getLast_of_ne_nil hne, Option.mem_some_iff] at ha
    rw [ha] at hlast
    simpa using hlast

theorem trim_sublist (l : List α) : (trim lead trail l).Sublist l :=
  (List.dropWhile_sublist lead).trans (List.rdropWhile_prefix trail l).sublist

theorem trim_ne_nil {l : List α} {a : α} (ha : a ∈ l) (hlead : lead a = false)
    (htrail : trail a = false) : trim lead trail l ≠ [] := by
  intro hnil
  rw [← List.rdropWhile_append_rtakeWhile (p := trail) (l := l)] at ha
  rcases List.mem_append.mp ha with ha | ha
  · simp [List.dropWhile_eq_nil_iff.mp hnil a ha] at hlead
  · simp [List.mem_rtakeWhile_imp ha] at htrail

theorem trim_of_trimmed {l : List α} (h : Trimmed lead trail l) : trim lead trail l = l := by
  rw [trim, h.rdropWhile, h.dropWhile]

theorem rdropWhile_append_of_pos {p : α → Bool} {l after : List α} (h : ∀ a ∈ after, p a = true) :
    (l ++ after).rdropWhile p = l.rdropWhile p := by
  simp only [List.rdropWhile, List.reverse_append]
  rw [List.dropWhile_append_of_pos fun a ha => h a (List.mem_reverse.mp ha)]

/-- What surrounds a trimmed list is trimmed off. -/
theorem trim_surround (hle : ∀ a, lead a = true → trail a = true) {before l after : List α}
    (hbefore : ∀ a ∈ before, lead a = true) (h : Trimmed lead trail l)
    (hafter : ∀ a ∈ after, trail a = true) :
    trim lead trail (before ++ l ++ after) = l := by
  rw [trim, rdropWhile_append_of_pos hafter]
  cases l with
  | nil =>
    have hnil : before.rdropWhile trail = [] :=
      List.rdropWhile_eq_nil_iff.mpr fun a ha => hle a (hbefore a ha)
    rw [List.append_nil, hnil]
    rfl
  | cons a l =>
    -- the last element stays, so nothing before it is trimmed from the end
    have hlast : Trimmed (fun _ => false) trail (before ++ a :: l) :=
      ⟨fun _ _ => rfl, by simpa [List.getLast?_append] using h.last⟩
    rw [hlast.rdropWhile, List.dropWhile_append_of_pos hbefore, h.dropWhile]

/-! ## Separators -/

/-- `a` occurs for a last time. -/
theorem eq_append_cons_last {a : α} {l : List α} (h : a ∈ l) :
    ∃ before after, l = before ++ a :: after ∧ a ∉ after := by
  obtain ⟨before, after, heq, hbefore⟩ := List.eq_append_cons_of_mem (List.mem_reverse.mpr h)
  refine ⟨after.reverse, before.reverse, ?_, by simpa using hbefore⟩
  rw [← List.reverse_reverse l, heq]
  simp

variable [DecidableEq α]

/-- What is before and after the first `sep`. -/
def splitFirst (sep : α) (l : List α) : Option (List α × List α) :=
  if sep ∈ l then some (l.takeWhile (· ≠ sep), (l.dropWhile (· ≠ sep)).tail) else none

/-- What is before and after the last `sep`. -/
def splitLast (sep : α) (l : List α) : Option (List α × List α) :=
  (splitFirst sep l.reverse).map fun parts => (parts.2.reverse, parts.1.reverse)

theorem splitFirst_eq_none {sep : α} {l : List α} : splitFirst sep l = none ↔ sep ∉ l := by
  simp [splitFirst]

theorem splitFirst_append {sep : α} {before : List α} (h : sep ∉ before) (after : List α) :
    splitFirst sep (before ++ sep :: after) = some (before, after) := by
  have hpos : ∀ a ∈ before, decide (a ≠ sep) = true := fun a ha =>
    decide_eq_true fun heq => h (heq ▸ ha)
  rw [splitFirst, if_pos (by simp), List.takeWhile_append_of_pos hpos,
    List.dropWhile_append_of_pos hpos]
  simp

theorem not_mem_of_splitFirst {sep : α} {l before after : List α}
    (h : splitFirst sep l = some (before, after)) : sep ∉ before := by
  simp only [splitFirst, Option.ite_none_right_eq_some, Option.some.injEq, Prod.mk.injEq] at h
  obtain ⟨-, rfl, -⟩ := h
  intro hmem
  simpa using List.mem_takeWhile_imp hmem

theorem splitLast_eq_none {sep : α} {l : List α} : splitLast sep l = none ↔ sep ∉ l := by
  simp [splitLast, splitFirst_eq_none]

theorem splitLast_append {sep : α} (before : List α) {after : List α} (h : sep ∉ after) :
    splitLast sep (before ++ sep :: after) = some (before, after) := by
  have hreverse : (before ++ sep :: after).reverse = after.reverse ++ sep :: before.reverse := by
    simp
  rw [splitLast, hreverse, splitFirst_append (by simpa using h)]
  simp

end CppComponents.Tokens
