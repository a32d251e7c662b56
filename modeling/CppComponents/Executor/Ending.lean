import CppComponents.Executor.Joining

/-!
# The end of an executor

What `stop()` and the destructor guarantee once they have returned.
-/

namespace CppComponents.Executor.Lifecycle

open CppComponents.Transition

variable {ι κ : Type} [DecidableEq ι] [DecidableEq κ] {maxPriority : Int} {s s' : State ι κ}

/-! ## The thread is joined once -/

theorem exited_or_none_of_path {t : State ι κ} (h : Invariant maxPriority s)
    (hstopping : s.isStopping = true) (hgone : s.executor = none ∨ s.executor = some .exited)
    (hpath : Path (system ι κ maxPriority) usedApart s t) :
    t.executor = s.executor ∧ t.io.begun = s.io.begun := by
  have hI : Invariant maxPriority t ∧ t.isStopping = true ∧ t.executor = s.executor ∧
      t.io.begun = s.io.begun := by
    refine hpath.invariant (I := fun t => Invariant maxPriority t ∧ t.isStopping = true ∧
      t.executor = s.executor ∧ t.io.begun = s.io.begun) ?_ ⟨h, hstopping, rfl, rfl⟩
    rintro u e u' ⟨hI, hu, hex, hbegun⟩ hok he
    have hstep := (step_spec he).2.2
    refine ⟨invariant_step hI hok he, hstep.stopping hu, ?_⟩
    rcases hgone with hnone | hexited
    · have hnone' := hstep.none_of_stopping hI.apart hu (hex.trans hnone)
      exact ⟨hnone'.trans hnone.symm, (hstep.begun_of_none (hex.trans hnone)).trans hbegun⟩
    · obtain ⟨hexited', hbegun'⟩ := hstep.exited hI.born (hex.trans hexited)
      exact ⟨hexited'.trans hexited.symm, hbegun'.trans hbegun⟩
  exact ⟨hI.2.2.1, hI.2.2.2⟩

/-- What is left of the destructor's call. -/
def destructorReturned : Returned := ⟨.destroy, none, none⟩

/-- The destructor returns once, and where it ran decides whether the process goes on. -/
structure Destroyed (s : State ι κ) : Prop where
  returned : s.destroyed = false → ∀ c, (c, destructorReturned) ∉ s.returned
  terminated : s.destroyed = true →
    (s.terminated = true ↔ (Caller.executor, destructorReturned) ∈ s.returned)

theorem destroyed_step {e : Event ι κ} (h : Destroyed s) (hI : Invariant maxPriority s)
    (he : step maxPriority s e = some s') : Destroyed s' := by
  obtain ⟨-, hlive, hstep⟩ := step_spec he
  have hnever := h.returned hlive
  -- what is not the destructor leaves things as they are
  have hother : ∀ p : Caller ι × Returned, p.2.call ≠ .destroy →
      s'.returned = s.returned ++ [p] → s'.destroyed = s.destroyed → Destroyed s' := by
    intro p hp hreturned hd
    have hnot : s'.destroyed = false := hd.trans hlive
    refine ⟨fun _ c hc => ?_, fun hyes => by simp [hnot] at hyes⟩
    rw [hreturned] at hc
    rcases List.mem_append.mp hc with hc | hc
    · exact hnever c hc
    · obtain rfl := List.mem_singleton.mp hc
      exact hp rfl
  cases hstep.reports with
  | silent hreturned hd =>
    have hnot : s'.destroyed = false := hd.trans hlive
    exact ⟨fun _ c => hreturned ▸ hnever c, fun hyes => by simp [hnot] at hyes⟩
  | other c r hr hstops hreturned hd =>
    refine hother (c, r) (fun hcall => ?_) hreturned hd
    have hcall : r.call = .destroy := hcall
    rw [hcall] at hstops
    cases hstops
  | refused c hreturned hd => exact hother _ (by simp) hreturned hd
  | failed c ec hpc hreturned hd => exact hother _ (by simp) hreturned hd
  | succeeded c hpc hstarted hreturned hd => exact hother _ (by simp) hreturned hd
  | stopped c call hfrom hex hreturned hd hterminated =>
    cases hdestructor : call.destructor with
    | false =>
      refine hother (c, call.result) ?_ hreturned (by simpa [hdestructor] using hd)
      simp [StopCall.result, hdestructor]
    | true =>
      have hyes : s'.destroyed = true := by simpa [hdestructor] using hd
      have hresult : call.result = destructorReturned := by
        simp [StopCall.result, hdestructor, destructorReturned]
      refine ⟨fun hnot => by simp [hyes] at hnot, fun _ => ?_⟩
      rw [hterminated hdestructor, hreturned, hresult]
      constructor
      · rintro ⟨rfl, -⟩
        exact List.mem_append_right _ (List.mem_singleton.mpr rfl)
      · intro hmem
        rcases List.mem_append.mp hmem with hmem | hmem
        · exact absurd hmem (hnever _)
        · obtain rfl : c = .executor := (Prod.mk.inj (List.mem_singleton.mp hmem)).1.symm
          refine ⟨rfl, hI.born.joinable_of_alive ?_⟩
          -- the executor thread makes calls while it is alive
          have hbusy : s.call .executor ≠ .idle := by
            rcases hfrom with ⟨hpc, -⟩ | ⟨hpc, -⟩ <;> simp [hpc]
          rcases hI.inside.user hbusy with hpc | ⟨b, hpc⟩ <;>
            exact ⟨by simp [hpc], by simp [hpc]⟩

theorem destroyed_of_reachable (h : Reachable (system ι κ maxPriority) usedApart s) :
    Invariant maxPriority s ∧ Destroyed s := by
  refine h.invariant (I := fun s => Invariant maxPriority s ∧ Destroyed s) ?_ ?_
  · rintro s ⟨hasDoorbellHandler, rfl⟩
    exact ⟨invariant_construct hasDoorbellHandler, nofun, nofun⟩
  · rintro s e s' ⟨hI, hD⟩ hok he
    exact ⟨invariant_step hI hok he, destroyed_step hD hI he⟩

/-- **The thread is joined once, and nothing runs after that.** For every run whose users
keep the two rules: when `stop()` or the destructor has returned to another thread, the
executor thread does not exist or has ended, and never runs a handler again. A thread that
joins is the only one that does, and the `std::thread` is joinable. A call from a handler
never waits. After the destructor the process goes on, except when a handler has
destroyed its own executor: then the thread is left joinable and `std::terminate` is
called. -/
theorem stop_joins_once (h : Reachable (system ι κ maxPriority) usedApart s) :
    (∀ t r, (Caller.thread t, r) ∈ s.returned → r.call.stops = true →
      ∀ u, Path (system ι κ maxPriority) usedApart s u →
        (u.executor = none ∨ u.executor = some .exited) ∧ u.io.begun = s.io.begun) ∧
    (∀ t call, s.call (.thread t) = .join call → s.thread = .joinable ∧
      ∀ t', (s.call (.thread t')).inStop = true → t' = t) ∧
    (∀ call, s.call .executor = .join call → s.terminated = false → s.destroyed = false →
      ∀ answer, (step maxPriority s (.advance .executor answer)).isSome = true) ∧
    (s.destroyed = true →
      (s.terminated = true ↔ (Caller.executor, destructorReturned) ∈ s.returned)) := by
  obtain ⟨hI, hD⟩ := destroyed_of_reachable h
  refine ⟨fun t r hr hstops u hpath => ?_, fun t call hpc => ⟨?_, fun t' ht' => ?_⟩, ?_,
    hD.terminated⟩
  · obtain ⟨hstopping, hgone⟩ := hI.apart.returned t r hr hstops
    obtain ⟨hex, hbegun⟩ := exited_or_none_of_path hI hstopping hgone hpath
    exact ⟨hex ▸ hgone, hbegun⟩
  · exact hI.apart.joinable t (by rw [hpc]; rfl)
  · by_contra hne
    have hne : Caller.thread t' ≠ .thread t := fun heq => hne (Caller.thread.inj heq)
    rcases hI.apart.overlap _ _ ht' (by rw [hpc]; rfl) hne with ⟨hex, -⟩ | ⟨hex, -⟩ <;> cases hex
  · intro call hpc hterminated hdestroyed answer
    simp [step, hterminated, hdestroyed, advance, hpc, stopStep]

/-- The executor has a doorbell; a handler stops it while a thread does, and the thread
destroys it when it has ended. -/
def stoppedTwice : List (Event Bool Nat) :=
  calls (.thread false) .start 8 ++ [.post (.thread true) 5, .runOne (.callback 5)] ++
    calls (.thread false) (.stop false) 3 ++ calls .executor (.stop true) 5 ++
    [.callbackReturn, .exit, .advance (.thread false) (.ok 0)] ++ calls (.thread true) .destroy 1

/-- The process goes on. -/
theorem stop_joins_once_stoppedTwice :
    ∃ s, run (system Bool Nat 99) usedApart (construct Bool Nat true) stoppedTwice = some s ∧
      s.returned = [(.thread false, ⟨.start, none, none⟩),
        (.executor, ⟨.stop true, none, none⟩), (.thread false, ⟨.stop false, none, none⟩),
        (.thread true, destructorReturned)] ∧
      s.destroyed = true ∧ s.terminated ≠ true ∧
      ∀ u, Path (system Bool Nat 99) usedApart s u → u.io.begun = [.callback 5] := by
  have hany : (run (system Bool Nat 99) usedApart (construct Bool Nat true)
      stoppedTwice).any (fun s => s.destroyed = true ∧ s.io.begun = [.callback 5] ∧
        s.returned = [(.thread false, ⟨.start, none, none⟩),
          (.executor, ⟨.stop true, none, none⟩), (.thread false, ⟨.stop false, none, none⟩),
          (.thread true, destructorReturned)]) = true := by
    decide
  obtain ⟨s, hrun, hs⟩ := (Option.any_eq_true _ _).mp hany
  obtain ⟨hdestroyed, hbegun, hreturned⟩ := of_decide_eq_true hs
  have hreach : Reachable (system Bool Nat 99) usedApart s :=
    ⟨_, ⟨true, rfl⟩, Path.of_run stoppedTwice hrun⟩
  obtain ⟨hafter, -, -, hterminated⟩ := stop_joins_once hreach
  refine ⟨s, hrun, hreturned, hdestroyed, fun hyes => ?_, fun u hpath => ?_⟩
  · have hmem := (hterminated hdestroyed).mp hyes
    simp [hreturned, destructorReturned] at hmem
  · exact (hafter false ⟨.stop false, none, none⟩ (by simp [hreturned]) rfl u hpath).2.trans hbegun

end CppComponents.Executor.Lifecycle
