import Mathlib.Logic.Function.Basic

/-!
# Labelled transition systems given by a step function

Every component of the library is verified as a system that takes one step at
a time: an event picks the step, and a step function says what the step does,
or that the event cannot happen now. This module knows nothing about the
components. It provides

- `System`: initial states and a partial step function;
- `Path`: the runs of a system, restricted to steps a *guard* allows. A guard
  is how a run states an assumption about its environment ("the handler
  returns false only when it found the queue empty"), so that one system
  serves theorems with different assumptions;
- `Path.invariant`, `Reachable.invariant`: the one induction over runs that
  every safety theorem of the library goes through;
- `run`, `Path.of_run`: execution of a list of events, so that a concrete run
  is checked by evaluation;
- `run_rel`: the rule for two systems whose steps correspond;
- `Reachable.refine`: the rule for a system whose step another takes in some steps;
- `System.remember`: a system with a history variable, for statements about
  what has happened since some earlier step.
-/

namespace CppComponents.Transition

universe u v

/-- A transition system: its initial states and, for each event, the state it
leads to (`none` when the event cannot happen). -/
structure System (σ : Type u) (ε : Type v) where
  init : σ → Prop
  step : σ → ε → Option σ

/-- A restriction on the steps of a run. -/
abbrev Guard (σ : Type u) (ε : Type v) := σ → ε → Prop

/-- The guard that allows every step. -/
def anyStep {σ : Type u} {ε : Type v} : Guard σ ε := fun _ _ => True

instance {σ : Type u} {ε : Type v} (s : σ) (e : ε) : Decidable (anyStep s e) := isTrue trivial

/-- The guard that allows what both guards allow. -/
def Guard.and {σ : Type u} {ε : Type v} (ok ok' : Guard σ ε) : Guard σ ε :=
  fun s e => ok s e ∧ ok' s e

instance {σ : Type u} {ε : Type v} (ok ok' : Guard σ ε) (s : σ) (e : ε) [Decidable (ok s e)]
    [Decidable (ok' s e)] : Decidable (ok.and ok' s e) := inferInstanceAs (Decidable (_ ∧ _))

variable {σ : Type u} {ε : Type v} {S : System σ ε} {ok ok' : Guard σ ε}

/-- `Path S ok s t`: a run of `S` leads from `s` to `t`, and `ok` allows each
of its steps in the state it is taken in. -/
inductive Path (S : System σ ε) (ok : Guard σ ε) : σ → σ → Prop where
  | refl (s : σ) : Path S ok s s
  | tail {s t u : σ} {e : ε} :
      Path S ok s t → ok t e → S.step t e = some u → Path S ok s u

/-- `Reachable S ok s`: an allowed run leads from an initial state to `s`. -/
def Reachable (S : System σ ε) (ok : Guard σ ε) (s : σ) : Prop :=
  ∃ s₀, S.init s₀ ∧ Path S ok s₀ s

theorem Path.trans {s t u : σ} (h₁ : Path S ok s t) (h₂ : Path S ok t u) :
    Path S ok s u := by
  induction h₂ with
  | refl => exact h₁
  | tail _ hok hstep ih => exact ih.tail hok hstep

theorem Path.single {s t : σ} {e : ε} (hok : ok s e) (he : S.step s e = some t) : Path S ok s t :=
  (Path.refl s).tail hok he

/-- A run that satisfies a guard satisfies every weaker one. -/
theorem Path.mono (hle : ∀ s e, ok s e → ok' s e) {s t : σ} (h : Path S ok s t) :
    Path S ok' s t := by
  induction h with
  | refl => exact .refl _
  | tail _ hok hstep ih => exact ih.tail (hle _ _ hok) hstep

/-- **The run rule.** What every allowed step preserves, every run preserves. -/
theorem Path.invariant {I : σ → Prop}
    (hstep : ∀ s e s', I s → ok s e → S.step s e = some s' → I s')
    {s t : σ} (h : Path S ok s t) (hs : I s) : I t := by
  induction h with
  | refl => exact hs
  | tail _ hok he ih => exact hstep _ _ _ ih hok he

namespace Reachable

theorem init {s : σ} (h : S.init s) : Reachable S ok s := ⟨s, h, .refl s⟩

theorem step {s t : σ} {e : ε} (h : Reachable S ok s) (hok : ok s e)
    (he : S.step s e = some t) : Reachable S ok t := by
  obtain ⟨s₀, h₀, hp⟩ := h
  exact ⟨s₀, h₀, hp.tail hok he⟩

theorem trans {s t : σ} (h : Reachable S ok s) (hp : Path S ok s t) :
    Reachable S ok t := by
  obtain ⟨s₀, h₀, hp₀⟩ := h
  exact ⟨s₀, h₀, hp₀.trans hp⟩

theorem mono (hle : ∀ s e, ok s e → ok' s e) {s : σ} (h : Reachable S ok s) :
    Reachable S ok' s := by
  obtain ⟨s₀, h₀, hp⟩ := h
  exact ⟨s₀, h₀, hp.mono hle⟩

/-- What holds initially and is preserved by every allowed step holds in every
reachable state. -/
theorem invariant {I : σ → Prop} (hinit : ∀ s, S.init s → I s)
    (hstep : ∀ s e s', I s → ok s e → S.step s e = some s' → I s')
    {s : σ} (h : Reachable S ok s) : I s := by
  obtain ⟨s₀, h₀, hp⟩ := h
  exact hp.invariant hstep (hinit s₀ h₀)

/-- **The refinement rule.** What `S` does in one step, `T` does in any number of steps,
or in none. -/
theorem refine {τ : Type*} {ε' : Type*} {T : System τ ε'} {okT : Guard τ ε'} {R : σ → τ → Prop}
    (hinit : ∀ s, S.init s → ∃ t, Reachable T okT t ∧ R s t)
    (hstep : ∀ s e s' t, R s t → ok s e → S.step s e = some s' →
      ∃ t', Path T okT t t' ∧ R s' t') {s : σ} (h : Reachable S ok s) :
    ∃ t, Reachable T okT t ∧ R s t := by
  refine h.invariant (I := fun s => ∃ t, Reachable T okT t ∧ R s t) hinit ?_
  rintro s e s' ⟨t, hr, hR⟩ hok he
  obtain ⟨t', hpath, hR'⟩ := hstep s e s' t hR hok he
  exact ⟨t', hr.trans hpath, hR'⟩

end Reachable

/-! ## History variables -/

/-- `S` together with what is remembered of its run. -/
def System.remember {μ : Type*} (S : System σ ε) (m₀ : μ) (next : μ → σ → σ → μ) :
    System (σ × μ) ε where
  init p := S.init p.1 ∧ p.2 = m₀
  step p e := (S.step p.1 e).map fun t => (t, next p.2 p.1 t)

/-- What is remembered restricts no run. -/
theorem Reachable.remember {μ : Type*} (m₀ : μ) (next : μ → σ → σ → μ) {s : σ}
    (h : Reachable S ok s) :
    ∃ m, Reachable (S.remember m₀ next) (fun p e => ok p.1 e) (s, m) := by
  obtain ⟨s₀, h₀, hp⟩ := h
  induction hp with
  | refl => exact ⟨m₀, .init ⟨h₀, rfl⟩⟩
  | @tail t u e _ hok he ih =>
    obtain ⟨m, hm⟩ := ih
    refine ⟨next m t u, hm.step hok ?_⟩
    simp [System.remember, he]

/-- `S` together with what is recorded of its run. Unlike what is remembered, the
record sees the events. -/
def System.record {μ : Type*} (S : System σ ε) (m₀ : μ) (next : μ → σ → ε → σ → μ) :
    System (σ × μ) ε where
  init p := S.init p.1 ∧ p.2 = m₀
  step p e := (S.step p.1 e).map fun t => (t, next p.2 p.1 e t)

theorem System.record_eq_some {μ : Type*} {m₀ m m' : μ} {next : μ → σ → ε → σ → μ} {s t : σ}
    {e : ε} (h : (S.record m₀ next).step (s, m) e = some (t, m')) :
    S.step s e = some t ∧ m' = next m s e t := by
  obtain ⟨t', ht', heq⟩ := Option.map_eq_some_iff.mp h
  obtain ⟨rfl, rfl⟩ := Prod.mk.inj heq
  exact ⟨ht', rfl⟩

/-- **The run rule for records.** -/
theorem Reachable.record_invariant {μ : Type*} {m₀ : μ} {next : μ → σ → ε → σ → μ}
    {I : σ → μ → Prop} (hinit : ∀ s, S.init s → I s m₀)
    (hstep : ∀ s m e t, I s m → ok s e → S.step s e = some t → I t (next m s e t)) {s : σ}
    {m : μ} (h : Reachable (S.record m₀ next) (fun p e => ok p.1 e) (s, m)) : I s m := by
  refine h.invariant (I := fun p => I p.1 p.2) ?_ ?_
  · rintro ⟨s, m⟩ ⟨hs, hm⟩
    obtain rfl : m = m₀ := hm
    exact hinit s hs
  · rintro ⟨s, m⟩ e ⟨t, m'⟩ hI hok he
    obtain ⟨ht, rfl⟩ := System.record_eq_some he
    exact hstep s m e t hI hok ht

/-- A run that is recorded is a run. -/
theorem Reachable.of_record {μ : Type*} {m₀ : μ} {next : μ → σ → ε → σ → μ} {s : σ} {m : μ}
    (h : Reachable (S.record m₀ next) (fun p e => ok p.1 e) (s, m)) : Reachable S ok s := by
  refine h.record_invariant (I := fun s _ => Reachable S ok s) (fun s hs => .init hs) ?_
  intro s m e t hr hok hstep
  exact hr.step hok hstep

/-- What is recorded restricts no run. -/
theorem Reachable.record {μ : Type*} (m₀ : μ) (next : μ → σ → ε → σ → μ) {s : σ}
    (h : Reachable S ok s) : ∃ m, Reachable (S.record m₀ next) (fun p e => ok p.1 e) (s, m) := by
  obtain ⟨s₀, h₀, hp⟩ := h
  induction hp with
  | refl => exact ⟨m₀, .init ⟨h₀, rfl⟩⟩
  | @tail t u e _ hok he ih =>
    obtain ⟨m, hm⟩ := ih
    refine ⟨next m t e u, hm.step hok ?_⟩
    simp [System.record, he]

/-! ## Executing a list of events -/

/-- Run a list of events; `none` as soon as one of them cannot happen or is
not allowed. -/
def run (S : System σ ε) (ok : Guard σ ε) [∀ s e, Decidable (ok s e)] :
    σ → List ε → Option σ
  | s, [] => some s
  | s, e :: es => if ok s e then (S.step s e).bind fun t => run S ok t es else none

/-- An execution is a run. -/
theorem Path.of_run [∀ s e, Decidable (ok s e)] :
    ∀ {s t : σ} (es : List ε), run S ok s es = some t → Path S ok s t
  | s, t, [], h => by
    obtain rfl : s = t := by simpa [run] using h
    exact .refl s
  | s, t, e :: es, h => by
    by_cases hok : ok s e
    · simp only [run, if_pos hok] at h
      obtain ⟨u, hu, hrest⟩ := Option.bind_eq_some_iff.mp h
      exact (Path.tail (.refl s) hok hu).trans (Path.of_run es hrest)
    · simp [run, if_neg hok] at h

theorem run_cons_eq_some [∀ s e, Decidable (ok s e)] {s u : σ} {e : ε} {es : List ε} :
    run S ok s (e :: es) = some u ↔
      ok s e ∧ ∃ t, S.step s e = some t ∧ run S ok t es = some u := by
  by_cases hok : ok s e
  · simp [run, hok, Option.bind_eq_some_iff]
  · simp [run, hok]

/-- **The simulation rule.** Two systems whose steps are possible in the same
related states, and keep them related, run alike. -/
theorem run_rel {τ : Type*} {T : System τ ε} {R : σ → τ → Prop}
    (hstep : ∀ s t e, R s t → Option.Rel R (S.step s e) (T.step t e)) (es : List ε) :
    ∀ {s : σ} {t : τ}, R s t → Option.Rel R (run S anyStep s es) (run T anyStep t es) := by
  induction es with
  | nil => exact fun h => .some h
  | cons e es ih =>
    intro s t h
    have hs : anyStep s e := trivial
    have ht : anyStep t e := trivial
    rw [run, run, if_pos hs, if_pos ht]
    have hrel := hstep s t e h
    generalize S.step s e = a, T.step t e = b at hrel
    cases hrel with
    | none => exact .none
    | some h' => exact ih h'

end CppComponents.Transition
