import CppComponents.Transition

/-!
# Time limits

Some work is done in stages, and each stage has a time limit of its own: whoever does it
sets an expiry when the stage begins, and the stage is over by then, or at most `slack`
later. A `TimeLimit` is the expiry together with an account of the stages so far, so that
the limits of the stages add up to one of the whole.

A system has a clock in `System.clocked`.
-/

namespace CppComponents

namespace Transition

/-- `S` with a clock: what happens is an event of `S`, or that time passes. -/
def System.clocked {σ ε : Type} (S : System σ ε) : System (σ × Int) (ε ⊕ Nat) where
  init p := S.init p.1
  step p
    | .inl e => (S.step p.1 e).map fun t => (t, p.2)
    | .inr duration => some (p.1, p.2 + duration)

theorem System.clocked_eq_some {σ ε : Type} {S : System σ ε} {s t : σ} {now now' : Int} {e : ε}
    (h : S.clocked.step (s, now) (.inl e) = some (t, now')) : S.step s e = some t ∧ now' = now := by
  obtain ⟨t', ht', heq⟩ := Option.map_eq_some_iff.mp h
  obtain ⟨rfl, rfl⟩ := Prod.mk.inj heq
  exact ⟨ht', rfl⟩

end Transition

structure TimeLimit where
  /-- when the first stage began -/
  since : Int
  /-- the time the stages may take, the one that is running included -/
  budget : Int
  /-- the expiry of the stage that is running -/
  expiry : Int

namespace TimeLimit

/-- The first stage begins. -/
def start (slack : Nat) (now limit : Int) : TimeLimit := ⟨now, limit + slack, now + limit⟩

/-- A stage is over, and the next one begins. -/
def next (slack : Nat) (now limit : Int) (l : TimeLimit) : TimeLimit :=
  { l with budget := l.budget + (limit + slack), expiry := now + limit }

/-- The first stage begins, or the next one. -/
def begin (slack : Nat) (now limit : Int) : Option TimeLimit → TimeLimit
  | none => start slack now limit
  | some l => l.next slack now limit

/-- The stages are within their limits. -/
structure InTime (slack : Nat) (l : TimeLimit) (now : Int) : Prop where
  began : l.since ≤ now
  running : now ≤ l.expiry + slack
  budget : l.expiry + slack ≤ l.since + l.budget

namespace InTime

variable {slack : Nat} {l : TimeLimit} {now : Int}

theorem start {limit : Int} (hlimit : 0 ≤ limit) :
    (TimeLimit.start slack now limit).InTime slack now where
  began := Int.le_refl now
  running := by
    simp only [TimeLimit.start]
    omega
  budget := by
    simp only [TimeLimit.start]
    omega

theorem next (h : l.InTime slack now) {limit : Int} (hlimit : 0 ≤ limit) :
    (l.next slack now limit).InTime slack now where
  began := h.began
  running := by
    simp only [TimeLimit.next]
    omega
  budget := by
    have hrunning := h.running
    have hbudget := h.budget
    simp only [TimeLimit.next]
    omega

/-- Time passes, no further than the expiry allows. -/
theorem advance (h : l.InTime slack now) {duration : Nat}
    (hexpiry : now + duration ≤ l.expiry + slack) : l.InTime slack (now + duration) where
  began := by
    have hbegan := h.began
    omega
  running := hexpiry
  budget := h.budget

/-- **The limits add up.** -/
theorem elapsed_le (h : l.InTime slack now) : now ≤ l.since + l.budget :=
  Int.le_trans h.running h.budget

end InTime

end TimeLimit

end CppComponents
