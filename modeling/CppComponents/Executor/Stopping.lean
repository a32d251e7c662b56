import CppComponents.Executor.Wakeup

/-!
# A graceful `stop()` is clean

`stop()` stores `is_stopping`, posts a callback that disarms the doorbell and
cancels the outstanding wait, and joins the thread, unless it runs on it.
`handle_doorbell()` checks `is_stopping` before it runs the handler and again
before it starts the next wait. A check that reads `false` comes before the
store, so the wait it lets start is there when the cancel callback runs, which
is posted after the store.

`CleanStop` is the invariant. `cancelled` is its core: once the cancel callback
has run, nothing waits, the doorbell is disarmed, and the executor thread is
past no check that would let it arm or wait again.
-/

namespace CppComponents.Executor

open CppComponents.Transition

variable {ι : Type}

/-- Whether the executor thread runs the completion handler of a wait from which
it may start the next one. -/
def ExecutorPc.waits : ExecutorPc → Nat
  | .completed | .arming | .handler _ | .disarming | .rewriting | .checking | .restarting => 1
  | _ => 0

/-- The program points after the first check of `is_stopping` read `false`. -/
def ExecutorPc.InRun : ExecutorPc → Prop
  | .arming | .handler _ | .disarming | .rewriting | .checking | .restarting => True
  | _ => False

/-- The program points the executor thread can be at while `stop()` runs. -/
def StopPc.At : StopPc → ExecutorPc → Prop
  | .posting .callback, pc | .resetting .callback, pc => pc = .callback
  | .posting .handler, pc | .resetting .handler, pc => ∃ sawEmpty, pc = .handler sawEmpty
  | _, _ => True

/-- `stop()` has posted its cancel callback. -/
def StopPc.Posted : StopPc → Prop
  | .notCalled | .posting _ => False
  | _ => True

/-- What holds between any two atomic steps. -/
structure CleanStop (s : State ι) : Prop where
  /-- a wait is outstanding, completed, or about to be replaced -/
  oneWait : s.waiting + s.ready + s.aborted + s.executor.waits ≤ 1
  flag : s.isStopping = true ∨ s.stop = .notCalled
  place : s.stop.At s.executor
  cancelling : s.executor = .cancelling → s.doorbellArmed = false
  cancelled : s.stop.Posted → s.cancelPosted = 0 → s.executor ≠ .cancelling →
    s.waiting = 0 ∧ s.doorbellArmed = false ∧ ¬ s.executor.InRun
  returned : s.stop = .returned → s.executor ≠ .arming

/-- The first wait is the only one, and `stop()` has not been called. -/
theorem cleanStop_init {s₀ : State ι} (h : Constructed s₀) : CleanStop (setupDoorbell s₀) := by
  obtain ⟨-, ⟨-, hstop, -⟩, -, ⟨hwaiting, hready, haborted⟩, -, hexec, -, -⟩ := h
  have hnever : ¬ s₀.stop.Posted := by simp [hstop, StopPc.Posted]
  exact {
    oneWait := by
      simp [setupDoorbell, startDoorbellWait, hwaiting, hready, haborted, hexec, ExecutorPc.waits]
    flag := .inr hstop
    place := by simp [setupDoorbell, startDoorbellWait, hstop, StopPc.At]
    cancelling := fun hc => by simp [setupDoorbell, startDoorbellWait, hexec] at hc
    cancelled := fun hposted => absurd hposted hnever
    returned := fun _ => by simp [setupDoorbell, startDoorbellWait, hexec] }

namespace CleanStop

variable {s s' : State ι}

/-- Only a `stop()` that is called on the executor's thread says where that thread is. -/
theorem at_of_not_inside (hinside : s.isInsideStop = false) (pc : ExecutorPc) : s.stop.At pc := by
  cases hstop : s.stop with
  | posting caller | resetting caller =>
    cases caller with
    | external => trivial
    | callback | handler => simp [State.isInsideStop, hstop] at hinside
  | _ => trivial

/-- Outside a callback and the handler, the executor thread does not run `stop()`. -/
theorem not_inside (h : CleanStop s) (hcallback : s.executor ≠ .callback)
    (hhandler : ∀ sawEmpty, s.executor ≠ .handler sawEmpty) : s.isInsideStop = false := by
  have hplace := h.place
  cases hstop : s.stop with
  | posting caller | resetting caller =>
    cases caller with
    | external => simp [State.isInsideStop, hstop]
    | callback =>
      rw [hstop] at hplace
      exact absurd hplace hcallback
    | handler =>
      rw [hstop] at hplace
      obtain ⟨sawEmpty, hpc⟩ := hplace
      exact absurd hpc (hhandler sawEmpty)
  | _ => simp [State.isInsideStop, hstop]

/-- The cancellation is posted after the flag is set. -/
theorem stopping_of_posted (h : CleanStop s) (hposted : s.stop.Posted) : s.isStopping = true := by
  rcases h.flag with hflag | hstop
  · exact hflag
  · rw [hstop] at hposted
    exact hposted.elim

/-- A step of another thread: the doorbell is at most disarmed. -/
theorem otherThread (h : CleanStop s) {armed : Bool} {counter queue : Nat}
    {producer : ι → ProducerPc} (harmed : s.doorbellArmed = false → armed = false) :
    CleanStop { s with
      doorbellArmed := armed, counter := counter, queue := queue, producer := producer } :=
  { h with
    cancelling := fun hc => harmed (h.cancelling hc)
    cancelled := fun hposted hnone hpc => by
      obtain ⟨hwaiting, hdisarmed, hrun⟩ := h.cancelled hposted hnone hpc
      exact ⟨hwaiting, harmed hdisarmed, hrun⟩ }

/-- A step of the executor thread inside `handle_doorbell()` that starts no wait. -/
theorem moveTo (h : CleanStop s) {pc : ExecutorPc} {armed : Bool} {counter queue : Nat}
    (hinside : s.isInsideStop = false) (hcancelling : s.executor ≠ .cancelling)
    (hcancelling' : pc ≠ .cancelling) (hwaits : pc.waits ≤ s.executor.waits)
    (hrun : pc.InRun → s.executor.InRun ∨ s.isStopping = false)
    (harmed : ¬ s.executor.InRun → s.doorbellArmed = false → armed = false)
    (harming : pc = .arming → s.isStopping = false) :
    CleanStop { s with
      doorbellArmed := armed, counter := counter, queue := queue, executor := pc } where
  oneWait := by
    have := h.oneWait
    show s.waiting + s.ready + s.aborted + pc.waits ≤ 1
    omega
  flag := h.flag
  place := at_of_not_inside hinside pc
  cancelling := fun hc => absurd hc hcancelling'
  cancelled := fun hposted hnone _ => by
    obtain ⟨hwaiting, hdisarmed, hnot⟩ := h.cancelled hposted hnone hcancelling
    refine ⟨hwaiting, harmed hnot hdisarmed, fun hnew => ?_⟩
    rcases hrun hnew with hold | hflag
    · exact hnot hold
    · rw [h.stopping_of_posted hposted] at hflag
      cases hflag
  returned := fun hreturned hpc => by
    have hposted : s.stop.Posted := by
      rw [show s.stop = .returned from hreturned]
      trivial
    have hflag := harming hpc
    rw [h.stopping_of_posted hposted] at hflag
    cases hflag

/-! ## The steps of the executor thread -/

/-- A step of the executor thread between the first check and the end of the run. -/
theorem moveInRun (h : CleanStop s) {pc : ExecutorPc} {armed : Bool} {counter queue : Nat}
    (hinside : s.isInsideStop = false) (hrun : s.executor.InRun) (hwaits : pc.waits = 1)
    (hwaits' : s.executor.waits = 1) (hcancelling : pc ≠ .cancelling) (harming : pc ≠ .arming) :
    CleanStop { s with
      doorbellArmed := armed, counter := counter, queue := queue, executor := pc } := by
  refine h.moveTo hinside ?_ hcancelling (by rw [hwaits, hwaits']) (fun _ => .inl hrun)
    (fun hnot => absurd hrun hnot) fun hpc => absurd hpc harming
  intro hpc
  rw [hpc] at hrun
  exact hrun

/-- The thread leaves the run, if it was in one. -/
theorem leaveRun (h : CleanStop s) {pc : ExecutorPc} {armed : Bool}
    (hinside : s.isInsideStop = false) (hcancelling : s.executor ≠ .cancelling)
    (hpc : pc = .stopping ∨ pc = .polling ∨ pc = .exited)
    (harmed : s.doorbellArmed = false → armed = false) :
    CleanStop { s with doorbellArmed := armed, executor := pc } := by
  rcases hpc with rfl | rfl | rfl
  all_goals
    exact h.moveTo hinside hcancelling (by simp) (Nat.zero_le _) (fun hrun => hrun.elim)
      (fun _ => harmed) fun harming => by cases harming

/-- A check of `is_stopping`. -/
theorem check (h : CleanStop s) {stopped running : ExecutorPc} (hinside : s.isInsideStop = false)
    (hcancelling : s.executor ≠ .cancelling) (hcancelling' : running ≠ .cancelling)
    (hwaits : running.waits ≤ s.executor.waits)
    (hstopped : stopped = .stopping ∨ stopped = .polling ∨ stopped = .exited) :
    CleanStop { s with executor := if s.isStopping then stopped else running } := by
  by_cases hflag : s.isStopping = true
  · rw [if_pos hflag]
    exact h.leaveRun hinside hcancelling hstopped id
  · rw [if_neg hflag]
    have hflag : s.isStopping = false := by simpa using hflag
    exact h.moveTo hinside hcancelling hcancelling' hwaits (fun _ => .inr hflag) (fun _ => id)
      fun _ => hflag

/-- The wait that is started replaces the one whose handler ran. -/
theorem restarting (h : CleanStop s) (hpc : s.executor = .restarting) :
    CleanStop { s with waiting := s.waiting + 1, executor := .polling } := by
  have hinside := h.not_inside (by simp [hpc]) (by simp [hpc])
  have hone := h.oneWait
  rw [hpc] at hone
  exact {
    oneWait := by
      show s.waiting + 1 + s.ready + s.aborted + 0 ≤ 1
      simp only [ExecutorPc.waits] at hone
      omega
    flag := h.flag
    place := at_of_not_inside hinside .polling
    cancelling := fun hc => by cases hc
    cancelled := fun hposted hnone _ => by
      -- the cancel callback has not run: the thread would not be past the check
      obtain ⟨-, -, hnot⟩ := h.cancelled hposted hnone (by simp [hpc])
      rw [hpc] at hnot
      exact absurd trivial hnot
    returned := fun _ harming => by cases harming }

/-- An aborted wait is still the only one. -/
theorem cancel (h : CleanStop s) (hpc : s.executor = .cancelling) :
    CleanStop { s with
      waiting := 0, aborted := s.aborted + s.waiting, executor := .polling } := by
  have hinside := h.not_inside (by simp [hpc]) (by simp [hpc])
  have hone := h.oneWait
  rw [hpc] at hone
  exact {
    oneWait := by
      show 0 + s.ready + (s.aborted + s.waiting) + 0 ≤ 1
      simp only [ExecutorPc.waits] at hone
      omega
    flag := h.flag
    place := at_of_not_inside hinside .polling
    cancelling := fun hc => by cases hc
    cancelled := fun _ _ _ => ⟨rfl, h.cancelling hpc, fun hrun => hrun.elim⟩
    returned := fun _ harming => by cases harming }

/-- A completion is delivered to the polling thread. -/
theorem deliver (h : CleanStop s) (hpc : s.executor = .polling) {pc : ExecutorPc}
    {ready aborted : Nat} (hrun : ¬ pc.InRun) (hcancelling : pc ≠ .cancelling)
    (hone : s.waiting + ready + aborted + pc.waits ≤ 1) :
    CleanStop { s with ready := ready, aborted := aborted, executor := pc } where
  oneWait := hone
  flag := h.flag
  place := at_of_not_inside (h.not_inside (by simp [hpc]) (by simp [hpc])) pc
  cancelling := fun hc => absurd hc hcancelling
  cancelled := fun hposted hnone _ => by
    obtain ⟨hwaiting, hdisarmed, -⟩ := h.cancelled hposted hnone (by simp [hpc])
    exact ⟨hwaiting, hdisarmed, hrun⟩
  returned := fun _ harming => hrun (by rw [show pc = .arming from harming]; trivial)

/-! ## The steps of `stop()` -/

/-- The call of `stop()` stores the flag and starts no wait. -/
theorem call (h : CleanStop s) {caller : Caller} {pc : ExecutorPc}
    (hplace : (StopPc.posting caller).At pc) (hwaits : pc.waits ≤ s.executor.waits)
    (hcancelling : pc = .cancelling → s.executor = .cancelling) :
    CleanStop { s with isStopping := true, stop := .posting caller, executor := pc } where
  oneWait := by
    have hone := h.oneWait
    show s.waiting + s.ready + s.aborted + pc.waits ≤ 1
    omega
  flag := .inl rfl
  place := hplace
  cancelling := fun hc => h.cancelling (hcancelling hc)
  cancelled := fun hposted => hposted.elim
  returned := fun hreturned => by cases hreturned

/-- `is_stopping` is set already; the callback posted here has yet to run. -/
theorem post (h : CleanStop s) {caller : Caller} (hstop : s.stop = .posting caller) :
    CleanStop { s with cancelPosted := s.cancelPosted + 1, stop := .resetting caller } := by
  have hplace := h.place
  have hflag : s.isStopping = true := h.flag.resolve_right (by simp [hstop])
  exact { h with
    flag := .inl hflag
    place := by
      rw [hstop] at hplace
      cases caller <;> exact hplace
    cancelled := fun _ hnone => by cases hnone
    returned := fun hreturned => by cases hreturned }

/-- `stop()` goes on or returns: the executor is not about to arm the doorbell. -/
theorem proceed (h : CleanStop s) (hposted : s.stop.Posted) {stop : StopPc} {work : Bool}
    (hstop : stop = .joining ∨ stop = .returned)
    (hreturned : stop = .returned → s.executor ≠ .arming) :
    CleanStop { s with work := work, stop := stop } :=
  { h with
    flag := .inl (h.stopping_of_posted hposted)
    place := by rcases hstop with rfl | rfl <;> exact trivial
    cancelled := fun _ => h.cancelled hposted
    returned := hreturned }

/-- The released guard sends the caller on to the join, or back where it came from. -/
theorem reset (h : CleanStop s) {caller : Caller} (hstop : s.stop = .resetting caller) :
    CleanStop { s with
      work := false, stop := if caller = .external then .joining else .returned } := by
  have hplace := h.place
  have hposted : s.stop.Posted := by
    rw [hstop]
    trivial
  rw [hstop] at hplace
  cases caller with
  | external => exact h.proceed hposted (.inl rfl) fun hreturned => by cases hreturned
  | callback =>
    refine h.proceed hposted (.inr rfl) fun _ harming => ?_
    rw [show s.executor = .callback from hplace] at harming
    cases harming
  | handler =>
    obtain ⟨sawEmpty, hpc⟩ := hplace
    refine h.proceed hposted (.inr rfl) fun _ harming => ?_
    rw [hpc] at harming
    cases harming

end CleanStop

/-! ## The whole system -/

variable [DecidableEq ι]

/-- One step preserves `CleanStop`. -/
theorem cleanStop_step {s s' : State ι} {e : Event ι} (h : CleanStop s)
    (he : step s e = some s') : CleanStop s' := by
  have hone := h.oneWait
  cases step_spec he with
  -- the producers take no part in the shutdown
  | push p hp | ring p hp | write p hp => exact h.otherThread id
  | exchange p hp => exact h.otherThread fun _ => rfl
  -- the one wait there is becomes ready; it was not cancelled yet
  | read hwait hcounter =>
    exact { h with
      oneWait := by
        show s.waiting - 1 + (s.ready + 1) + s.aborted + s.executor.waits ≤ 1
        omega
      cancelled := fun hposted hnone hpc => by
        obtain ⟨hwaiting, -, -⟩ := h.cancelled hposted hnone hpc
        omega }
  | deliverReady hpc hready | deliverAborted hpc haborted =>
    rw [hpc] at hone
    refine h.deliver hpc (fun hrun => hrun) (by simp) ?_
    simp only [ExecutorPc.waits] at hone ⊢
    omega
  | ignored hpc =>
    rcases hpc with hpc | hpc
    all_goals
      exact h.leaveRun (h.not_inside (by simp [hpc]) (by simp [hpc])) (by simp [hpc])
        (.inr (.inl rfl)) fun _ => rfl
  -- the first check: the handler runs only if `stop()` has not been called
  | completed hpc =>
    exact h.check (h.not_inside (by simp [hpc]) (by simp [hpc])) (by simp [hpc]) (by simp)
      (by simp [hpc, ExecutorPc.waits]) (.inl rfl)
  | arming hpc | disarming hpc | rewriting hpc =>
    exact h.moveInRun (h.not_inside (by simp [hpc]) (by simp [hpc])) (by rw [hpc]; trivial) rfl
      (by rw [hpc]; rfl) (by simp) (by simp)
  -- the second check: a wait is started only if `stop()` has not been called
  | checking hpc =>
    exact h.check (h.not_inside (by simp [hpc]) (by simp [hpc])) (by simp [hpc]) (by simp)
      (by simp [hpc, ExecutorPc.waits]) (.inr (.inl rfl))
  | restarting hpc => exact h.restarting hpc
  | cancelling hpc => exact h.cancel hpc
  -- the handler starts no wait and disarms nothing
  | drain sawEmpty hpc houtside | seeEmpty sawEmpty hpc houtside =>
    exact h.moveInRun houtside (by rw [hpc]; trivial) rfl (by rw [hpc]; rfl) (by simp) (by simp)
  | handlerReturn sawEmpty workRemains hpc houtside =>
    refine h.moveInRun houtside (by rw [hpc]; trivial) ?_ (by rw [hpc]; rfl) ?_ ?_
    all_goals cases workRemains <;> simp [ExecutorPc.waits]
  | callExternal hstop => exact h.call trivial (Nat.le_refl _) id
  | callCallback hstop hpc => exact h.call rfl (Nat.zero_le _) fun hc => by cases hc
  | callHandler hstop sawEmpty hpc => exact h.call ⟨sawEmpty, hpc⟩ (Nat.le_refl _) id
  | posting caller hstop => exact h.post hstop
  | resetting caller hstop => exact h.reset hstop
  -- `join()` returns only when the executor has left its loop
  | joining hstop hpc =>
    refine h.proceed ?_ (.inr rfl) fun _ harming => ?_
    · rw [hstop]
      trivial
    · rw [hpc] at harming
      cases harming
  | callbackReturn hpc houtside =>
    exact h.leaveRun houtside (by simp [hpc]) (.inr (.inl rfl)) id
  -- the callback `stop()` posted: `cancelling` is reached here only
  | runCancel hpc hpending =>
    exact { h with
      oneWait := by
        rw [hpc] at hone
        exact hone
      place := CleanStop.at_of_not_inside
        (h.not_inside (by simp [hpc]) (by simp [hpc])) .cancelling
      cancelling := fun _ => rfl
      cancelled := fun _ _ hc => absurd rfl hc
      returned := fun _ harming => by cases harming }
  | exit hpc hnone =>
    exact h.leaveRun (h.not_inside (by simp [hpc]) (by simp [hpc])) (by simp [hpc])
      (.inr (.inr rfl)) id

/-- The invariant holds in every run, whatever the user's handlers do. -/
theorem cleanStop_of_reachable {s : State ι} (hr : Reachable (system ι) anyStep s) :
    CleanStop s := by
  refine hr.invariant (I := CleanStop) ?_ fun s e s' h _ he => cleanStop_step (e := e) h he
  rintro _ ⟨s₀, h₀, rfl⟩
  exact cleanStop_init h₀

/-- The program points outside the completion handler of a wait and outside the
callback posted by `stop()`. -/
def ExecutorPc.BetweenCompletions : ExecutorPc → Prop
  | .polling | .callback | .exited => True
  | _ => False

/-- The cancel callback posted by `stop()` and every queued doorbell completion
have run. -/
structure State.DoorbellSettled (s : State ι) : Prop where
  posted : s.stop.Posted
  cancelRun : s.cancelPosted = 0
  completionsRun : s.ready = 0 ∧ s.aborted = 0
  executor : s.executor.BetweenCompletions

/-- An invocation of the doorbell handler begins in the step from `s` to `s'`. -/
def State.HandlerBegins (s s' : State ι) : Prop :=
  (∀ sawEmpty, s.executor ≠ .handler sawEmpty) ∧ ∃ sawEmpty, s'.executor = .handler sawEmpty

/-- The doorbell stays settled: nothing is left that could start a wait. -/
theorem CleanStop.settled_step {s s' : State ι} {e : Event ι} (h : CleanStop s)
    (hs : s.DoorbellSettled) (he : step s e = some s') : s'.DoorbellSettled := by
  obtain ⟨hposted, hcancelRun, ⟨hready, haborted⟩, hbetween⟩ := hs
  have hcancelling : s.executor ≠ .cancelling := by
    intro hc
    rw [hc] at hbetween
    exact hbetween
  obtain ⟨hwaiting, -, -⟩ := h.cancelled hposted hcancelRun hcancelling
  cases step_spec he with
  | push | ring | exchange | write => exact ⟨hposted, hcancelRun, ⟨hready, haborted⟩, hbetween⟩
  -- no wait is outstanding, and no completion or callback is queued
  | read hwait => omega
  | deliverReady hpc hqueued => omega
  | deliverAborted hpc hqueued => omega
  | runCancel hpc hqueued => omega
  | ignored hpc =>
    rcases hpc with hpc | hpc
    all_goals
      rw [hpc] at hbetween
      exact hbetween.elim
  | completed hpc | arming hpc | disarming hpc | rewriting hpc | checking hpc | restarting hpc
  | cancelling hpc | drain _ hpc | seeEmpty _ hpc | handlerReturn _ _ hpc =>
    rw [hpc] at hbetween
    exact hbetween.elim
  | callExternal hstop | callCallback hstop | callHandler hstop | posting _ hstop =>
    rw [hstop] at hposted
    exact hposted.elim
  | resetting caller hstop =>
    refine ⟨?_, hcancelRun, ⟨hready, haborted⟩, hbetween⟩
    cases caller <;> exact trivial
  | joining => exact ⟨trivial, hcancelRun, ⟨hready, haborted⟩, hbetween⟩
  | callbackReturn | exit => exact ⟨hposted, hcancelRun, ⟨hready, haborted⟩, trivial⟩

/-- A `stop()` that has returned stays returned. -/
theorem step_returned {s s' : State ι} {e : Event ι} (hreturned : s.stop = .returned)
    (he : step s e = some s') : s'.stop = .returned := by
  cases step_spec he with
  | callExternal hstop | callCallback hstop | callHandler hstop | posting _ hstop
  | resetting _ hstop | joining hstop =>
    cases hreturned.symm.trans hstop
  | _ => exact hreturned

/-- A handler invocation begins only after the arming exchange. -/
theorem arming_of_handlerBegins {s s' : State ι} {e : Event ι} (hbegins : s.HandlerBegins s')
    (he : step s e = some s') : s.executor = .arming := by
  obtain ⟨hout, sawEmpty, hin⟩ := hbegins
  cases step_spec he with
  | arming hpc => exact hpc
  | completed | checking =>
    simp only at hin
    split at hin <;> cases hin
  | drain _ hpc | seeEmpty _ hpc | handlerReturn _ _ hpc => exact absurd hpc (hout _)
  | push | ring | exchange | write | read | callExternal | callHandler | posting | resetting
  | joining => exact absurd hin (hout sawEmpty)
  | _ => cases hin

/-- **Stop is clean.** For a graceful `stop()` by another thread, from a posted
callback or from inside the handler, and whatever the handler returns:

- after it has returned, no invocation of the doorbell handler begins;
- once its cancel callback and every queued doorbell completion have run, no
  wait is outstanding, none is started again and the doorbell is disarmed, so
  that `io_context.run()` can return as soon as `work` is gone;
- at every moment, at most one wait is outstanding. -/
theorem stop_is_clean {s : State ι} (hr : Reachable (system ι) anyStep s) :
    (s.stop = .returned → ∀ t, Path (system ι) anyStep s t →
      ∀ e u, step t e = some u → ¬ t.HandlerBegins u) ∧
    (s.DoorbellSettled → ∀ t, Path (system ι) anyStep s t →
      t.waiting = 0 ∧ t.doorbellArmed = false ∧ (t.work = false → t.outOfWork)) ∧
    s.waiting + s.ready + s.aborted ≤ 1 := by
  refine ⟨fun hreturned t hp e u he hbegins => ?_, fun hsettled t hp => ?_, ?_⟩
  · have hstop : t.stop = .returned :=
      hp.invariant (I := fun t => t.stop = .returned)
        (fun _ _ _ h _ he => step_returned h he) hreturned
    have h := cleanStop_of_reachable (hr.trans hp)
    exact h.returned hstop (arming_of_handlerBegins hbegins he)
  · -- the invariant and the settled doorbell are carried along the run together
    obtain ⟨h, ht⟩ : CleanStop t ∧ t.DoorbellSettled :=
      hp.invariant (I := fun t => CleanStop t ∧ t.DoorbellSettled)
        (fun _ _ _ h _ he => ⟨cleanStop_step h.1 he, h.1.settled_step h.2 he⟩)
        ⟨cleanStop_of_reachable hr, hsettled⟩
    have hpc : t.executor ≠ .cancelling := by
      intro hc
      have := ht.executor
      rw [hc] at this
      exact this
    obtain ⟨hwaiting, harmed, -⟩ := h.cancelled ht.posted ht.cancelRun hpc
    exact ⟨hwaiting, harmed, fun hwork =>
      ⟨hwork, hwaiting, ht.completionsRun.1, ht.completionsRun.2, ht.cancelRun⟩⟩
  · have := (cleanStop_of_reachable hr).oneWait
    omega

/-- A handler that calls `stop()` and reports remaining work: the executor writes
the eventfd again, but starts no wait. -/
def stopFromHandler : List (Event (Fin 2)) :=
  [.ring producer₁, .exchange producer₁, .write producer₁, .read, .deliverReady, .executor,
    .executor, .callStop .handler, .stop, .stop, .handlerReturn true, .executor, .executor,
    .executor, .runCancel, .executor]

/-- A `stop()` from the doorbell handler: afterwards nothing begins and the context is out
of work. -/
theorem stop_is_clean_stopFromHandler :
    ∃ s, run (system (Fin 2)) anyStep (setupDoorbell constructed) stopFromHandler = some s ∧
      (∀ e u, step s e = some u → ¬ s.HandlerBegins u) ∧ s.outOfWork := by
  have hsome : ((run (system (Fin 2)) anyStep (setupDoorbell constructed)
      stopFromHandler).map fun s =>
        (s.stop, s.cancelPosted, s.ready, s.aborted, s.executor, s.work)) =
      some (.returned, 0, 0, 0, .polling, false) := by decide
  obtain ⟨s, hrun, hs⟩ := Option.map_eq_some_iff.mp hsome
  simp only [Prod.mk.injEq] at hs
  obtain ⟨hstop, hcancelRun, hready, haborted, hpc, hwork⟩ := hs
  have hinit : (system (Fin 2)).init (setupDoorbell constructed) :=
    ⟨constructed, constructed_spec, rfl⟩
  have hsettled : s.DoorbellSettled :=
    ⟨by rw [hstop]; trivial, hcancelRun, ⟨hready, haborted⟩, by rw [hpc]; trivial⟩
  obtain ⟨hnever, hclean, -⟩ := stop_is_clean ⟨_, hinit, Path.of_run stopFromHandler hrun⟩
  refine ⟨s, hrun, hnever hstop s (.refl s), ?_⟩
  exact (hclean hsettled s (.refl s)).2.2 hwork

end CppComponents.Executor
