import CppComponents.Executor.Callbacks

/-!
# The control of the thread

`set_priority()`, `get_priority()` and `set_cpu_affinity()` may be called at any time,
by any number of threads, also before the thread exists and after it has ended. What
the kernel has for the thread is then a register that the calls write and read: the
calls that have returned, taken in this order, tell what is in it (`scheduled`), and
every call that succeeded returned what a single caller would have got. They succeed
between the start and the stop, and only with arguments in range.
-/

namespace CppComponents.Executor.Lifecycle

open CppComponents.Transition

/-- What the kernel has for the thread. -/
structure Scheduling where
  policy : Policy
  priority : Int
  cpu : Option Nat
  deriving DecidableEq, Repr

namespace Scheduling

/-- A new thread. -/
def initial : Scheduling := ⟨.schedOther, 0, none⟩

/-- What a call leaves that returned `r`. -/
def after (k : Scheduling) (r : Returned) : Scheduling :=
  match r.call, r.ec with
  | .control (.setPriority priority), none =>
    { k with policy := policyFor priority, priority := priority }
  | .control (.setCpuAffinity cpuId), none => { k with cpu := some cpuId }
  | _, _ => k

/-- What the kernel has is in range: a priority stands with its policy. -/
structure Valid (maxPriority : Int) (k : Scheduling) : Prop where
  policy : k.policy = policyFor k.priority
  priority : k.priority = 0 ∨ 0 ≤ k.priority ∧ k.priority ≤ maxPriority
  cpu : ∀ cpuId, k.cpu = some cpuId → cpuId < cpuSetSize

end Scheduling

/-- What a control function returns that succeeds. -/
def Control.success (op : Control) (k : Scheduling) : Returned :=
  ⟨.control op, none, match op with
    | .getPriority => some k.priority
    | .setPriority _ | .setCpuAffinity _ => none⟩

/-- A control function that succeeded. -/
def Returned.controlled (r : Returned) : Bool :=
  match r.call, r.ec with
  | .control _, none => true
  | _, _ => false

variable {ι κ : Type}

/-- What is left by calls that returned one after the other. -/
def scheduled (returned : List (Caller ι × Returned)) : Scheduling :=
  returned.foldl (fun k r => k.after r.2) .initial

theorem scheduled_append (returned : List (Caller ι × Returned)) (r : Caller ι × Returned) :
    scheduled (returned ++ [r]) = (scheduled returned).after r.2 := by
  rw [scheduled, List.foldl_append]
  rfl

def State.scheduling (s : State ι κ) : Scheduling := ⟨s.policy, s.priority, s.cpu⟩

theorem Scheduling.after_of_not_controlled (k : Scheduling) {r : Returned}
    (h : r.controlled = false) : k.after r = k := by
  obtain ⟨call, ec, priority⟩ := r
  cases call with
  | control op =>
    cases ec with
    | none => cases h
    | some => cases op <;> rfl
  | _ => rfl

theorem Scheduling.Valid.after {maxPriority : Int} {k : Scheduling} (h : k.Valid maxPriority)
    {op : Control} (hrange : op.outOfRange maxPriority = false) :
    (k.after (op.success k)).Valid maxPriority := by
  cases op with
  | setPriority priority =>
    rw [Control.outOfRange, decide_eq_false_iff_not, not_or] at hrange
    have hpriority : 0 ≤ priority ∧ priority ≤ maxPriority := by omega
    exact ⟨rfl, .inr hpriority, h.cpu⟩
  | getPriority => exact h
  | setCpuAffinity cpuId =>
    rw [Control.outOfRange, decide_eq_false_iff_not] at hrange
    refine ⟨h.policy, h.priority, fun cpuId' heq => ?_⟩
    cases heq
    exact Nat.lt_of_not_le hrange

variable [DecidableEq ι] [DecidableEq κ] {maxPriority : Int} {s s' : State ι κ}

/-! ## What a step does with the thread's scheduling -/

/-- A step leaves it, or is a pthread call that succeeds. -/
inductive Governs (s s' : State ι κ) : Prop where
  | same (hs : s'.scheduling = s.scheduling) (hreturned : s'.returned = s.returned ∨
      ∃ c r, s'.returned = s.returned ++ [(c, r)] ∧ r.controlled = false)
  | succeeded (c : Caller ι) (op : Control) (hpc : s.call c = .pthread op)
      (hs : s'.scheduling = s.scheduling.after (op.success s.scheduling))
      (hreturned : s'.returned = s.returned ++ [(c, op.success s.scheduling)])

omit [DecidableEq κ] in
theorem stopReturn_governs (s t : State ι κ) (c : Caller ι) (call : StopCall)
    (hs : t.scheduling = s.scheduling) (hreturned : t.returned = s.returned) :
    Governs s (stopReturn t c call) := by
  refine .same ?_ (.inr ⟨c, call.result, ?_, ?_⟩)
  · rw [← hs]
    unfold stopReturn
    split <;> rfl
  · rw [stopReturn_returned, hreturned]
  · unfold StopCall.result
    split <;> rfl

theorem StepSpec.governs {e : Event ι κ} (hstep : StepSpec maxPriority s e s') :
    Governs s s' := by
  cases hstep with
  | startStopped c | controlRefused c | ringUnarmed c | startAgain c | startFails c | publish c
  | controlStopping c | pthreadFails c | write c => exact .same rfl (.inr ⟨c, _, rfl, rfl⟩)
  | notJoinable c answer call => exact stopReturn_governs s s c call rfl rfl
  | joinSelf answer call => exact stopReturn_governs s s .executor call rfl rfl
  | joinOther t answer call => exact stopReturn_governs s _ (.thread t) call rfl rfl
  | pthread c answer op hpc => cases op <;> exact .succeeded c _ hpc rfl rfl
  | runOne h io =>
    cases h with
    | callback | cancelDoorbell => exact .same rfl (.inl rfl)
    | doorbell ec => cases ec <;> exact .same rfl (.inl rfl)
  | _ => exact .same rfl (.inl rfl)

/-- A call goes on to the pthread call when it has found `is_stopping` not set. -/
theorem StepSpec.pthread_new {e : Event ι κ} (hstep : StepSpec maxPriority s e s')
    {c : Caller ι} {op : Control} (hc : s'.call c = .pthread op) :
    s.call c = .pthread op ∨ s.isStopping = false := by
  have hset : ∀ {t : State ι κ} {c' : Caller ι} {pc : CallPc}, t.call = s.call →
      pc.control = none → (t.setCall c' pc).call c = .pthread op → s.call c = .pthread op := by
    intro t c' pc hcall hpc hset
    rw [State.call_setCall] at hset
    split at hset
    · rw [hset] at hpc
      cases hpc
    · rw [← hcall]
      exact hset
  have hreturn : ∀ {c' : Caller ι}, Function.update s.call c' .idle c = .pthread op →
      s.call c = .pthread op := fun h => hset (t := s) rfl rfl h
  cases hstep with
  | startStopped | controlRefused | ringUnarmed | startAgain | startFails | publish
  | controlStopping | pthreadFails | write => exact .inl (hset rfl rfl hc)
  | startCalled | stopCalled | ringArmed | eventfd | assign | arm | startWait | createThread
  | setHandle | postCancel | stopContext => exact .inl (hset rfl rfl hc)
  | startFirst => exact .inl (hset rfl (by split <;> rfl) hc)
  | isJoinable => exact .inl (hset rfl (by split <;> rfl) hc)
  | resetWork => exact .inl (hset rfl (by split <;> rfl) hc)
  | controlCalled c' op' =>
    rw [State.call_setCall] at hc
    split at hc
    · cases hc
    · exact .inl hc
  | controlPassed c' answer op' hpc hstopping => exact .inr hstopping
  | pthread c' answer op' =>
    cases op' <;> exact .inl (hset rfl rfl hc)
  | notJoinable c' answer call =>
    rw [stopReturn_call] at hc
    exact .inl (hreturn hc)
  | joinSelf answer call =>
    rw [stopReturn_call] at hc
    exact .inl (hreturn hc)
  | joinOther t answer call =>
    rw [stopReturn_call] at hc
    exact .inl (hreturn hc)
  | runOne h io =>
    rw [enter_call] at hc
    exact .inl hc
  | _ => exact .inl hc

/-! ## The calls see one register -/

/-- What the calls that have returned tell. -/
structure Governed (maxPriority : Int) (s : State ι κ) : Prop where
  scheduling : s.scheduling = scheduled s.returned
  valid : s.scheduling.Valid maxPriority
  history : ∀ before c r later, s.returned = before ++ (c, r) :: later → r.controlled = true →
    ∃ op : Control, op.outOfRange maxPriority = false ∧ r = op.success (scheduled before) ∧
      ∃ p ∈ before, p.2.call = .start ∧ p.2.ec = none

omit [DecidableEq ι] [DecidableEq κ] in
/-- The call that returned last, or one before it. -/
theorem returned_append {before later l : List (Caller ι × Returned)} {p q : Caller ι × Returned}
    (h : l ++ [p] = before ++ q :: later) :
    (before = l ∧ q = p) ∨ ∃ later', l = before ++ q :: later' := by
  rcases List.eq_nil_or_concat later with rfl | ⟨later', last, rfl⟩
  · obtain ⟨hl, hp⟩ := List.append_inj' h rfl
    exact .inl ⟨hl.symm, (List.singleton_inj.mp hp).symm⟩
  · refine .inr ⟨later', ?_⟩
    rw [List.concat_eq_append, ← List.cons_append, ← List.append_assoc] at h
    exact (List.append_inj' h rfl).1

omit [DecidableEq ι] [DecidableEq κ] in
/-- Once the executor is started, a call of `start()` has returned success. -/
theorem exists_start (hstarts : s.starts.length = if s.isStarted then 1 else 0)
    (hstarted : s.isStarted = true) : ∃ p ∈ s.returned, p.2.call = .start ∧ p.2.ec = none := by
  rw [hstarted, if_pos rfl] at hstarts
  obtain ⟨p, hp⟩ := List.exists_mem_of_length_pos (hstarts ▸ Nat.one_pos)
  obtain ⟨hmem, hstart⟩ := List.mem_filter.mp hp
  exact ⟨p, hmem, by simpa using hstart⟩

theorem governed_step {e : Event ι κ} (h : Governed maxPriority s) (hB : Born maxPriority s)
    (hstarts : s.starts.length = if s.isStarted then 1 else 0)
    (hstep : StepSpec maxPriority s e s') : Governed maxPriority s' := by
  cases hstep.governs with
  | same hs hreturned =>
    rcases hreturned with hreturned | ⟨c, r, hreturned, hr⟩
    · exact ⟨by rw [hs, hreturned, h.scheduling], hs ▸ h.valid, hreturned ▸ h.history⟩
    · refine ⟨?_, hs ▸ h.valid, fun before c' r' later heq hr' => ?_⟩
      · rw [hs, hreturned, scheduled_append, Scheduling.after_of_not_controlled _ hr, h.scheduling]
      · rcases returned_append (hreturned ▸ heq) with ⟨-, hlast⟩ | ⟨later', heq'⟩
        · obtain ⟨-, rfl⟩ := Prod.mk.inj hlast
          rw [hr] at hr'
          cases hr'
        · exact h.history before c' r' later' heq' hr'
  | succeeded c op hpc hs hreturned =>
    obtain ⟨hstarted, hrange⟩ := hB.control c op (by rw [hpc]; rfl)
    refine ⟨?_, hs ▸ h.valid.after hrange, fun before c' r later heq hr => ?_⟩
    · rw [hs, hreturned, scheduled_append, ← h.scheduling]
    · rcases returned_append (hreturned ▸ heq) with ⟨rfl, hlast⟩ | ⟨later', heq'⟩
      · obtain ⟨-, rfl⟩ := Prod.mk.inj hlast
        exact ⟨op, hrange, by rw [h.scheduling], exists_start hstarts hstarted⟩
      · exact h.history before c' r later' heq' hr

theorem governed_of_reachable {ok : Guard (State ι κ) (Event ι κ)}
    (h : Reachable (system ι κ maxPriority) ok s) : Governed maxPriority s := by
  have hI : (Born maxPriority s ∧ s.starts.length = if s.isStarted then 1 else 0) ∧
      Governed maxPriority s := by
    refine h.invariant (I := fun s => (Born maxPriority s ∧ s.starts.length =
      if s.isStarted then 1 else 0) ∧ Governed maxPriority s) ?_ ?_
    · rintro s ⟨hasDoorbellHandler, rfl⟩
      refine ⟨⟨born_construct hasDoorbellHandler, rfl⟩, rfl, ⟨rfl, .inl rfl, nofun⟩, ?_⟩
      intro before c r later heq
      cases List.append_ne_nil_of_right_ne_nil before (List.cons_ne_nil _ _) heq.symm
    · rintro s e s' ⟨⟨hB, hstarts⟩, h⟩ - he
      have hstep := (step_spec he).2.2
      exact ⟨⟨born_step hB he, starts_step hB hstep hstarts⟩, governed_step h hB hstarts hstep⟩
  exact hI.2

/-! ## After the stop -/

/-- `stop()` has been called, and no control function has got past the check of
`is_stopping` before. -/
def Uncontrolled (s : State ι κ) : Prop :=
  s.isStopping = true ∧ ∀ c op, s.call c ≠ .pthread op

theorem uncontrolled_of_path {ok : Guard (State ι κ) (Event ι κ)} {t : State ι κ}
    (h : Uncontrolled s) (hpath : Path (system ι κ maxPriority) ok s t) :
    Uncontrolled t ∧ t.scheduling = s.scheduling ∧
      ∃ later, t.returned = s.returned ++ later ∧ ∀ r ∈ later, r.2.controlled = false := by
  refine hpath.invariant (I := fun t => Uncontrolled t ∧ t.scheduling = s.scheduling ∧
    ∃ later, t.returned = s.returned ++ later ∧ ∀ r ∈ later, r.2.controlled = false) ?_
    ⟨h, rfl, [], (List.append_nil _).symm, nofun⟩
  rintro t e t' ⟨⟨hstopping, hnone⟩, hscheduling, later, hlater, hrefused⟩ - he
  have hstep := (step_spec he).2.2
  refine ⟨⟨hstep.stopping hstopping, fun c op hc => ?_⟩, ?_⟩
  · rcases hstep.pthread_new hc with hc | hnot
    · exact hnone c op hc
    · rw [hstopping] at hnot
      cases hnot
  · cases hstep.governs with
    | same hs hreturned =>
      refine ⟨hs.trans hscheduling, ?_⟩
      rcases hreturned with hreturned | ⟨c, r, hreturned, hr⟩
      · exact ⟨later, hreturned.trans hlater, hrefused⟩
      · refine ⟨later ++ [(c, r)], by rw [hreturned, hlater, List.append_assoc], fun p hp => ?_⟩
        rcases List.mem_append.mp hp with hp | hp
        · exact hrefused p hp
        · rw [List.mem_singleton.mp hp]
          exact hr
    | succeeded c op hpc => exact absurd hpc (hnone c op)

/-- Two threads set and read the priority; one of them asks for too much, and is not allowed
to go back. -/
def priorities : List (Event Bool Nat) :=
  calls (.thread false) .start 4 ++ [.call (.thread true) (.control .getPriority)] ++
    calls (.thread false) (.control (.setPriority 10)) 2 ++
    List.replicate 2 (.advance (.thread true) (.ok 0)) ++
    calls (.thread true) (.control (.setPriority 100)) 0 ++
    calls (.thread true) (.control (.setPriority 0)) 1 ++ [.advance (.thread true) (.error 1)]

end CppComponents.Executor.Lifecycle
