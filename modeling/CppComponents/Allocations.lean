import Mathlib.Data.List.AList

/-!
# Objects that others point to

A component allocates objects, keeps them alive in a table of its own and hands each to
one holder, who has no more than a pointer. The holder gives the pointer back when it is
done, and the object is freed. The component may also free all of them at once, without
asking; then the pointers that are held at that time dangle.

`Sound` says that there is no other way to a dangling pointer, and none to an object that
is never freed. `κ` are the holders. An object is known by the number of objects that were
allocated before it, so a number is never used again.
-/

namespace CppComponents

structure Allocations (κ : Type) where
  /-- the pointers, by their holder -/
  held : AList fun _ : κ => Nat
  /-- the objects in the table -/
  live : List Nat
  next : Nat

namespace Allocations

variable {κ : Type} [DecidableEq κ]

/-- An object is allocated for `k`. -/
def give (h : Allocations κ) (k : κ) : Allocations κ where
  held := h.held.insert k h.next
  live := h.next :: h.live.erase h.next
  next := h.next + 1

/-- An object is allocated and freed. -/
def discard (h : Allocations κ) : Allocations κ := { h with next := h.next + 1 }

/-- Holder `k` is done. -/
def giveBack (h : Allocations κ) (k : κ) : Allocations κ :=
  { h with
    held := h.held.erase k
    live := (h.held.lookup k).elim h.live h.live.erase }

/-- All objects are freed. -/
def freeAll (h : Allocations κ) : Allocations κ := { h with live := [] }

omit [DecidableEq κ] in
/-- The pointers that are held. -/
def pointers (h : Allocations κ) : List Nat := h.held.entries.map Sigma.snd

theorem mem_pointers {h : Allocations κ} {a : Nat} :
    a ∈ h.pointers ↔ ∃ k, h.held.lookup k = some a := by
  unfold pointers
  rw [List.mem_map]
  constructor
  · rintro ⟨⟨k, b⟩, hmem, rfl⟩
    exact ⟨k, AList.mem_lookup_iff.mpr hmem⟩
  · rintro ⟨k, hk⟩
    exact ⟨⟨k, a⟩, AList.mem_lookup_iff.mp hk, rfl⟩

/-- A pointer that is held points to a live object, or to one of the `freed`; and every
live object has one holder. -/
structure Sound (freed : List Nat) (h : Allocations κ) : Prop where
  nodup : h.live.Nodup
  alive : ∀ k a, h.held.lookup k = some a → a ∈ h.live ∨ a ∈ freed
  held : ∀ a ∈ h.live, ∃ k, h.held.lookup k = some a
  once : ∀ k k' a, h.held.lookup k = some a → h.held.lookup k' = some a → k = k'
  gone : ∀ a ∈ freed, a ∉ h.live ∧ a < h.next
  /-- what is not allocated yet -/
  fresh : ∀ a, h.next ≤ a → a ∉ h.live

namespace Sound

variable {h : Allocations κ} {freed : List Nat}

theorem lt_next (hs : h.Sound freed) {k : κ} {a : Nat} (hk : h.held.lookup k = some a) :
    a < h.next := by
  rcases hs.alive k a hk with hlive | hfreed
  · exact Nat.lt_of_not_le fun hle => hs.fresh a hle hlive
  · exact (hs.gone a hfreed).2

theorem empty : (⟨∅, [], 0⟩ : Allocations κ).Sound [] where
  nodup := List.nodup_nil
  alive := by simp
  held := by simp
  once := by simp
  gone := by simp
  fresh := by simp

theorem give (hs : h.Sound freed) {k : κ} (hnone : h.held.lookup k = none) :
    (h.give k).Sound freed := by
  have hnew : h.next ∉ h.live := hs.fresh h.next (Nat.le_refl _)
  have hlive : (h.give k).live = h.next :: h.live := by
    show h.next :: h.live.erase h.next = _
    rw [List.erase_of_not_mem hnew]
  -- the new holder has the new object, and the others have what they had
  have hheld : ∀ k' a, (h.give k).held.lookup k' = some a →
      (k' = k ∧ a = h.next) ∨ (k' ≠ k ∧ h.held.lookup k' = some a) := by
    intro k' a ha
    by_cases hk : k' = k
    · subst hk
      rw [Allocations.give, AList.lookup_insert] at ha
      exact .inl ⟨rfl, (Option.some.inj ha).symm⟩
    · rw [Allocations.give, AList.lookup_insert_ne hk] at ha
      exact .inr ⟨hk, ha⟩
  constructor
  · rw [hlive]
    exact hs.nodup.cons hnew
  · intro k' a ha
    rw [hlive]
    rcases hheld k' a ha with ⟨-, rfl⟩ | ⟨-, hold⟩
    · exact .inl List.mem_cons_self
    · exact (hs.alive k' a hold).imp_left (List.mem_cons_of_mem _)
  · intro a ha
    rw [hlive] at ha
    rcases List.mem_cons.mp ha with rfl | hmem
    · exact ⟨k, AList.lookup_insert _⟩
    · obtain ⟨k', hk'⟩ := hs.held a hmem
      refine ⟨k', (AList.lookup_insert_ne ?_).trans hk'⟩
      rintro rfl
      rw [hnone] at hk'
      cases hk'
  · intro k₁ k₂ a h₁ h₂
    rcases hheld k₁ a h₁ with ⟨rfl, rfl⟩ | ⟨-, hold₁⟩ <;>
      rcases hheld k₂ _ h₂ with ⟨rfl, hnext⟩ | ⟨-, hold₂⟩
    · rfl
    · exact absurd (hs.lt_next hold₂) (Nat.lt_irrefl _)
    · subst hnext
      exact absurd (hs.lt_next hold₁) (Nat.lt_irrefl _)
    · exact hs.once k₁ k₂ a hold₁ hold₂
  · intro a ha
    obtain ⟨hdead, hlt⟩ := hs.gone a ha
    rw [hlive]
    refine ⟨fun hmem => ?_, Nat.lt_succ_of_lt hlt⟩
    rcases List.mem_cons.mp hmem with rfl | hmem
    · exact Nat.lt_irrefl _ hlt
    · exact hdead hmem
  · intro a hle hmem
    rw [hlive] at hmem
    rcases List.mem_cons.mp hmem with rfl | hmem
    · exact Nat.not_succ_le_self _ hle
    · exact hs.fresh a (Nat.le_of_succ_le hle) hmem

theorem discard (hs : h.Sound freed) : h.discard.Sound freed :=
  { hs with
    gone := fun a ha => (hs.gone a ha).imp_right Nat.lt_succ_of_lt
    fresh := fun a hle => hs.fresh a (Nat.le_of_succ_le hle) }

theorem giveBack (hs : h.Sound freed) (k : κ) : (h.giveBack k).Sound freed := by
  have hheld : ∀ k' a, (h.giveBack k).held.lookup k' = some a →
      k' ≠ k ∧ h.held.lookup k' = some a := by
    intro k' a ha
    have hne : k' ≠ k := by
      rintro rfl
      rw [Allocations.giveBack, AList.lookup_erase] at ha
      cases ha
    rw [Allocations.giveBack, AList.lookup_erase_ne hne] at ha
    exact ⟨hne, ha⟩
  have hlive : ∀ a, a ∈ (h.giveBack k).live ↔ a ∈ h.live ∧ h.held.lookup k ≠ some a := by
    intro a
    show a ∈ (h.held.lookup k).elim h.live h.live.erase ↔ _
    cases hk : h.held.lookup k with
    | none => simp
    | some b =>
      rw [Option.elim_some, hs.nodup.mem_erase_iff, and_comm, ne_comm]
      simp
  constructor
  · show ((h.held.lookup k).elim h.live h.live.erase).Nodup
    cases h.held.lookup k with
    | none => exact hs.nodup
    | some b => exact hs.nodup.erase b
  · intro k' a ha
    obtain ⟨hne, hold⟩ := hheld k' a ha
    refine (hs.alive k' a hold).imp_left fun hmem => (hlive a).mpr ⟨hmem, fun hk => ?_⟩
    exact hne (hs.once k' k a hold hk)
  · intro a ha
    obtain ⟨hmem, hother⟩ := (hlive a).mp ha
    obtain ⟨k', hk'⟩ := hs.held a hmem
    refine ⟨k', (AList.lookup_erase_ne ?_).trans hk'⟩
    rintro rfl
    exact hother hk'
  · exact fun k₁ k₂ a h₁ h₂ => hs.once k₁ k₂ a (hheld k₁ a h₁).2 (hheld k₂ a h₂).2
  · exact fun a ha => (hs.gone a ha).imp_left fun hdead hmem => hdead ((hlive a).mp hmem).1
  · exact fun a hle hmem => hs.fresh a hle ((hlive a).mp hmem).1

/-- The pointers that are held when everything is freed dangle. -/
theorem freeAll (hs : h.Sound freed) : h.freeAll.Sound (freed ++ h.pointers) where
  nodup := List.nodup_nil
  alive := fun k a hk => .inr (List.mem_append_right _ (mem_pointers.mpr ⟨k, hk⟩))
  held := fun a ha => by cases ha
  once := hs.once
  gone := fun a ha => by
    refine ⟨List.not_mem_nil, ?_⟩
    rcases List.mem_append.mp ha with hfreed | hheld
    · exact (hs.gone a hfreed).2
    · obtain ⟨k, hk⟩ := mem_pointers.mp hheld
      exact hs.lt_next hk
  fresh := fun _ _ => List.not_mem_nil

/-- A pointer is good unless it is one of the `freed`. -/
theorem mem_live_iff (hs : h.Sound freed) {k : κ} {a : Nat} (hk : h.held.lookup k = some a) :
    a ∈ h.live ↔ a ∉ freed := by
  constructor
  · exact fun hlive hfreed => (hs.gone a hfreed).1 hlive
  · exact fun hnot => (hs.alive k a hk).resolve_right hnot

/-- A live object has exactly one holder, who can give it back. -/
theorem existsUnique_holder (hs : h.Sound freed) {a : Nat} (ha : a ∈ h.live) :
    ∃! k, h.held.lookup k = some a := by
  obtain ⟨k, hk⟩ := hs.held a ha
  exact ⟨k, hk, fun k' hk' => hs.once k' k a hk' hk⟩

end Sound

end Allocations

end CppComponents
