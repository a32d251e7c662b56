import Mathlib.Data.List.Infix

/-!
# An outbox over one connection at a time

A sender owns a FIFO queue of items and a connection that can be lost and
replaced. While the connection is open it accepts items and sends them one at a
time: the item at the front is sent, stays at the front until its send
completes, and is then released. Losing the connection starts a new
*generation* and releases what is still queued. Sends that were started on an
earlier connection stay outstanding and complete later.

This module names nothing of a particular sender. It provides

- `Outbox`: the state, with a `log` of what happened, and its operations
  `connect`, `accept`, `start`, `release` and `disconnect`;
- `Outbox.Sound`: what the operations keep. `ledger` says that acceptance order
  is release order followed by the queue; `current` that at most one send of
  the current generation is outstanding, and of which item; `transmitted` and
  `prefixes` that what is started on a connection is a prefix of what is
  accepted on it.
-/

namespace CppComponents

universe u v

/-- What is recorded of an outbox. -/
inductive Outbox.Record (α : Type u) where
  | opened (generation : Nat)
  | accepted (generation : Nat) (item : α)
  | started (generation : Nat) (item : α)
  | released (item : α)

/-- An outbox. `sends g` are the outstanding sends of generation `g`. -/
structure Outbox (α : Type u) where
  isOpen : Bool
  generation : Nat
  queue : List α
  busy : Bool
  sends : Nat → List α
  log : List (Outbox.Record α)

namespace Outbox

variable {α : Type u}

/-! ## Reading the log -/

@[simp] def Record.asOpening : Record α → Option Nat
  | .opened g => some g
  | _ => none

@[simp] def Record.asAcceptedIn (g : Nat) : Record α → Option α
  | .accepted g' a => if g' = g then some a else none
  | _ => none

@[simp] def Record.asStartedIn (g : Nat) : Record α → Option α
  | .started g' a => if g' = g then some a else none
  | _ => none

@[simp] def Record.asAccepted : Record α → Option α
  | .accepted _ a => some a
  | _ => none

@[simp] def Record.asReleased : Record α → Option α
  | .released a => some a
  | _ => none

/-- The generations of the connections, in the order they were opened. -/
def openings (log : List (Record α)) : List Nat := log.filterMap Record.asOpening

/-- The items accepted on the connection of generation `g`. -/
def acceptedIn (g : Nat) (log : List (Record α)) : List α := log.filterMap (Record.asAcceptedIn g)

/-- The items whose send was started on the connection of generation `g`. -/
def startedIn (g : Nat) (log : List (Record α)) : List α := log.filterMap (Record.asStartedIn g)

def accepted (log : List (Record α)) : List α := log.filterMap Record.asAccepted

def released (log : List (Record α)) : List α := log.filterMap Record.asReleased

theorem filterMap_snoc {β : Type u} {γ : Type v} (f : β → Option γ) (l : List β) (b : β) :
    (l ++ [b]).filterMap f = l.filterMap f ++ (f b).toList := by
  rw [List.filterMap_append]
  cases hb : f b <;> simp [hb]

@[simp] theorem openings_snoc (log : List (Record α)) (r : Record α) :
    openings (log ++ [r]) = openings log ++ r.asOpening.toList :=
  filterMap_snoc _ log r

@[simp] theorem acceptedIn_snoc (g : Nat) (log : List (Record α)) (r : Record α) :
    acceptedIn g (log ++ [r]) = acceptedIn g log ++ (r.asAcceptedIn g).toList :=
  filterMap_snoc _ log r

@[simp] theorem startedIn_snoc (g : Nat) (log : List (Record α)) (r : Record α) :
    startedIn g (log ++ [r]) = startedIn g log ++ (r.asStartedIn g).toList :=
  filterMap_snoc _ log r

@[simp] theorem accepted_snoc (log : List (Record α)) (r : Record α) :
    accepted (log ++ [r]) = accepted log ++ r.asAccepted.toList :=
  filterMap_snoc _ log r

@[simp] theorem released_snoc (log : List (Record α)) (r : Record α) :
    released (log ++ [r]) = released log ++ r.asReleased.toList :=
  filterMap_snoc _ log r

/-! ## The operations -/

def connect (o : Outbox α) : Outbox α :=
  { o with isOpen := true, log := o.log ++ [.opened o.generation] }

def accept (o : Outbox α) (a : α) : Outbox α :=
  { o with queue := o.queue ++ [a], log := o.log ++ [.accepted o.generation a] }

/-- Send the item at the front, unless a send is outstanding. -/
def start (o : Outbox α) : Outbox α :=
  match o.queue with
  | [] => o
  | a :: _ =>
    if o.busy then o
    else { o with
      busy := true
      sends := fun g => if g = o.generation then o.sends g ++ [a] else o.sends g
      log := o.log ++ [.started o.generation a] }

/-- Release the item `a` at the front. -/
def release (o : Outbox α) (a : α) : Outbox α :=
  { o with queue := o.queue.tail, busy := false, log := o.log ++ [.released a] }

def disconnect (o : Outbox α) : Outbox α :=
  { o with isOpen := false, generation := o.generation + 1, busy := false }

/-- The operation of a send ends: the outstanding sends become `sends`. -/
def withSends (o : Outbox α) (sends : Nat → List α) : Outbox α := { o with sends := sends }

theorem start_eq {o : Outbox α} {a : α} {rest : List α} (hq : o.queue = a :: rest)
    (hb : o.busy = false) :
    o.start = { o with
      busy := true
      sends := fun g => if g = o.generation then o.sends g ++ [a] else o.sends g
      log := o.log ++ [.started o.generation a] } := by
  simp [start, hq, hb]

/-! ## The invariant -/

/-- A generation without a connection so far. -/
def Unused (o : Outbox α) (g : Nat) : Prop :=
  o.generation < g ∨ g = o.generation ∧ o.isOpen = false

structure Sound (o : Outbox α) : Prop where
  ledger : accepted o.log = released o.log ++ o.queue
  busy : o.busy = true → o.isOpen = true ∧ o.queue ≠ []
  current : o.sends o.generation = if o.busy then o.queue.take 1 else []
  future : ∀ g, o.generation < g → o.sends g = []
  transmitted : o.isOpen = true → ∃ done,
    acceptedIn o.generation o.log = done ++ o.queue ∧
    startedIn o.generation o.log = done ++ o.sends o.generation
  unused : ∀ g, o.Unused g →
    acceptedIn g o.log = [] ∧ startedIn g o.log = [] ∧ g ∉ openings o.log
  prefixes : ∀ g, startedIn g o.log <+: acceptedIn g o.log
  openings : (openings o.log).Pairwise (· < ·)

namespace Sound

variable {o : Outbox α}

/-- At most one send of the current generation is outstanding. -/
theorem length_sends (h : o.Sound) : (o.sends o.generation).length ≤ 1 := by
  rw [h.current]
  split
  · exact List.length_take_le 1 _
  · exact Nat.zero_le 1

theorem sends_eq_nil (h : o.Sound) (hb : o.busy = false) : o.sends o.generation = [] := by
  rw [h.current, hb]
  rfl

/-- An outstanding send of the current generation sends the front item. -/
theorem eq_cons_of_mem (h : o.Sound) {a : α} (ha : a ∈ o.sends o.generation) :
    o.busy = true ∧ o.sends o.generation = [a] ∧ ∃ rest, o.queue = a :: rest := by
  rw [h.current] at ha ⊢
  cases hb : o.busy with
  | false => simp [hb] at ha
  | true =>
    simp only [hb, if_true] at ha ⊢
    cases hq : o.queue with
    | nil => simp [hq] at ha
    | cons b rest =>
      obtain rfl : a = b := by simpa [hq] using ha
      exact ⟨trivial, rfl, rest, rfl⟩

theorem not_busy (h : o.Sound) (hopen : o.isOpen = false) : o.busy = false := by
  cases hb : o.busy with
  | false => rfl
  | true => exact absurd (h.busy hb).1 (by simp [hopen])

/-! ## The operations keep the invariant -/

/-- An outbox that has never had a connection. -/
theorem empty : Sound (⟨false, 0, [], false, fun _ => [], []⟩ : Outbox α) where
  ledger := rfl
  busy := fun hb => by cases hb
  current := rfl
  future := fun _ _ => rfl
  transmitted := fun ho => by cases ho
  unused := fun _ _ => ⟨rfl, rfl, List.not_mem_nil⟩
  prefixes := fun _ => List.prefix_rfl
  openings := List.Pairwise.nil

theorem opening_le (h : o.Sound) {g : Nat} (hg : g ∈ Outbox.openings o.log) :
    g ≤ o.generation := by
  by_contra hlt
  exact (h.unused g (.inl (by omega))).2.2 hg

/-- A connection is opened with nothing queued. -/
theorem connect (h : o.Sound) (hopen : o.isOpen = false) (hq : o.queue = []) :
    o.connect.Sound := by
  obtain ⟨hacc, hst, hnew⟩ := h.unused o.generation (.inr ⟨rfl, hopen⟩)
  have hb : o.busy = false := h.not_busy hopen
  exact {
    ledger := by simpa [Outbox.connect] using h.ledger
    busy := fun hb' => by
      change o.busy = true at hb'
      rw [hb] at hb'
      cases hb'
    current := h.current
    future := h.future
    transmitted := fun _ => ⟨[], by simp [Outbox.connect, hacc, hq],
      by simp [Outbox.connect, hst, h.sends_eq_nil hb]⟩
    unused := fun g hg => by
      have hlt : o.generation < g := hg.resolve_right fun hclosed => by cases hclosed.2
      obtain ⟨h₁, h₂, h₃⟩ := h.unused g (.inl hlt)
      have hne : g ≠ o.generation := by omega
      simp [Outbox.connect, h₁, h₂, h₃, hne]
    prefixes := fun g => by simpa [Outbox.connect] using h.prefixes g
    openings := by
      simp only [Outbox.connect, openings_snoc, Record.asOpening, Option.toList_some]
      refine List.pairwise_append.mpr ⟨h.openings, List.pairwise_singleton _ _, ?_⟩
      intro g hg g' hg'
      obtain rfl := List.mem_singleton.mp hg'
      have hne : g ≠ o.generation := fun heq => hnew (heq ▸ hg)
      have := h.opening_le hg
      omega }

/-- An item is accepted while the connection is open. -/
theorem accept (h : o.Sound) (hopen : o.isOpen = true) (a : α) : (o.accept a).Sound where
  ledger := by simp [Outbox.accept, h.ledger]
  busy := fun hb => ⟨hopen, by simp [Outbox.accept]⟩
  current := by
    show o.sends o.generation = if o.busy then (o.queue ++ [a]).take 1 else []
    rw [h.current]
    split
    · rename_i hb
      cases hq : o.queue with
      | nil => exact absurd hq (h.busy hb).2
      | cons b rest => rfl
    · rfl
  future := h.future
  transmitted := fun _ => by
    obtain ⟨done, hacc, hst⟩ := h.transmitted hopen
    exact ⟨done, by simp [Outbox.accept, hacc], by simpa [Outbox.accept] using hst⟩
  unused := fun g hg => by
    have hlt : o.generation < g := hg.resolve_right fun hclosed => by
      simp [Outbox.accept, hopen] at hclosed
    obtain ⟨h₁, h₂, h₃⟩ := h.unused g (.inl hlt)
    have hne : o.generation ≠ g := by omega
    simp [Outbox.accept, h₁, h₂, h₃, hne]
  prefixes := fun g => by
    have hgrow : acceptedIn g o.log <+: acceptedIn g (o.accept a).log := by
      simp [Outbox.accept]
    simpa [Outbox.accept] using (h.prefixes g).trans hgrow
  openings := by simpa [Outbox.accept] using h.openings

/-- The send of the front item is started while the connection is open. -/
theorem start (h : o.Sound) (hopen : o.isOpen = true) : o.start.Sound := by
  cases hq : o.queue with
  | nil =>
    simpa [Outbox.start, hq] using h
  | cons a rest =>
    by_cases hb : o.busy = true
    · simpa [Outbox.start, hq, hb] using h
    -- nothing of this generation is being sent, so all that was started is done
    · have hb : o.busy = false := by simpa using hb
      have hcur : o.sends o.generation = [] := h.sends_eq_nil hb
      obtain ⟨done, hacc, hst⟩ := h.transmitted hopen
      rw [start_eq hq hb]
      exact {
        ledger := by simpa using h.ledger
        busy := fun _ => ⟨hopen, by simp [hq]⟩
        current := by simp [hcur, hq]
        future := fun g hg => by
          have hlt : o.generation < g := hg
          have hne : g ≠ o.generation := by omega
          simp [hne, h.future g hg]
        transmitted := fun _ => ⟨done, by simp [hacc], by simp [hst, hcur]⟩
        unused := fun g hg => by
          have hlt : o.generation < g := hg.resolve_right fun hclosed => by
            simp [hopen] at hclosed
          obtain ⟨h₁, h₂, h₃⟩ := h.unused g (.inl hlt)
          have hne : o.generation ≠ g := by omega
          simp [h₁, h₂, h₃, hne]
        prefixes := fun g => by
          by_cases hg : o.generation = g
          · -- what is started now is the next accepted item
            subst hg
            simp [hacc, hst, hcur, hq]
          · simpa [hg] using h.prefixes g
        openings := by simpa using h.openings }

/-- The send of the front item completes and the item is released. -/
theorem finish (h : o.Sound) {a : α} {sends : Nat → List α}
    (ha : a ∈ o.sends o.generation) (hcur : sends o.generation = [])
    (hfut : ∀ g, o.generation < g → sends g = []) :
    ((o.withSends sends).release a).Sound := by
  obtain ⟨hbusy, hsends, rest, hq⟩ := h.eq_cons_of_mem ha
  have hopen : o.isOpen = true := (h.busy hbusy).1
  exact {
    ledger := by simp [release, withSends, h.ledger, hq]
    busy := fun hb => by cases hb
    current := hcur
    future := hfut
    transmitted := fun _ => by
      obtain ⟨done, hacc, hst⟩ := h.transmitted hopen
      exact ⟨done ++ [a], by simp [release, withSends, hacc, hq],
        by simp [release, withSends, hst, hsends, hcur]⟩
    unused := fun g hg => by simpa [release, withSends] using h.unused g hg
    prefixes := fun g => by simpa [release, withSends] using h.prefixes g
    openings := by simpa [release, withSends] using h.openings }

/-- An item that is still queued is released after the connection was lost. -/
theorem drop (h : o.Sound) (hopen : o.isOpen = false) {a : α} {rest : List α}
    (hq : o.queue = a :: rest) : (o.release a).Sound where
  ledger := by simp [release, h.ledger, hq]
  busy := fun hb => by cases hb
  current := h.sends_eq_nil (h.not_busy hopen)
  future := h.future
  transmitted := fun ho => by
    change o.isOpen = true at ho
    rw [hopen] at ho
    cases ho
  unused := fun g hg => by simpa [release] using h.unused g hg
  prefixes := fun g => by simpa [release] using h.prefixes g
  openings := by simpa [release] using h.openings

/-- The connection is lost. What is queued stays until it is released. -/
theorem disconnect (h : o.Sound) : o.disconnect.Sound where
  ledger := h.ledger
  busy := fun hb => by cases hb
  current := h.future _ (Nat.lt_succ_self _)
  future := fun g hg => h.future g (Nat.lt_of_succ_lt hg)
  transmitted := fun ho => by cases ho
  unused := fun g hg => h.unused g (.inl (by
    rcases hg with hlt | ⟨heq, -⟩
    · exact Nat.lt_of_succ_lt hlt
    · exact heq ▸ Nat.lt_succ_self _))
  prefixes := h.prefixes
  openings := h.openings

/-- A send of an earlier generation completes. -/
theorem withSends (h : o.Sound) {sends : Nat → List α}
    (hcur : ∀ g, o.generation ≤ g → sends g = o.sends g) : (o.withSends sends).Sound :=
  { h with
    current := (hcur _ (Nat.le_refl _)).trans h.current
    future := fun g hg => (hcur g (Nat.le_of_lt hg)).trans (h.future g hg)
    transmitted := fun ho => by
      obtain ⟨done, hacc, hst⟩ := h.transmitted ho
      refine ⟨done, hacc, hst.trans ?_⟩
      show done ++ o.sends o.generation = done ++ sends o.generation
      rw [hcur _ (Nat.le_refl _)] }

end Sound

end Outbox

end CppComponents
