import CppComponents.Executor.Callbacks

/-!
# Stopping, joining, and the end of the thread

`stop()` may be called by a thread of the user's, which then joins the executor
thread, or by a handler on the executor thread, which must not. The destructor makes
the same call, by force. Users keep two rules (`usedApart`): `start()` does not
overlap with `stop()`, as the header asks, and calls of `stop()` do not overlap,
except that a handler may make one while another thread is joining; nothing else is
in progress when the destructor is called.

Under these rules the thread is joined once, when it has ended; a thread that joins
waits for nothing but the handlers that are ready and the operations components have
pending, since the wait for the doorbell is always cancelled or about to be
(`Owed`); and each step of the executor thread brings its end closer (`rank`).
-/

namespace CppComponents.Executor.Lifecycle

open CppComponents.Transition

/-- At the join: everything `stop()` does to end the loop is done. -/
def CallPc.joining : CallPc → Bool
  | .join _ => true
  | _ => false

variable {ι κ : Type} [DecidableEq ι] [DecidableEq κ]

/-- What users promise. -/
def usedApart : Guard (State ι κ) (Event ι κ) := fun s e =>
  match e with
  | .call _ .start => ∀ c', (s.call c').inStop = false
  | .call c (.stop _) => ∀ c', (s.call c').inStart = false ∧
      ((s.call c').inStop = true → c = .executor ∧ (s.call c').joining = true)
  | .call _ .destroy => ∀ c', s.call c' = .idle
  | _ => True

/-- For two threads the promise can be checked. -/
instance (p : Caller Bool → Prop) [DecidablePred p] : Decidable (∀ c, p c) :=
  decidable_of_iff (p .executor ∧ ∀ t, p (.thread t))
    ⟨fun h c => match c with
      | .executor => h.1
      | .thread t => h.2 t, fun h => ⟨h _, fun _ => h _⟩⟩

instance (s : State Bool κ) (e : Event Bool κ) : Decidable (usedApart s e) :=
  match e with
  | .call _ .start => inferInstanceAs (Decidable (∀ c', (s.call c').inStop = false))
  | .call c (.stop _) => inferInstanceAs (Decidable (∀ c', (s.call c').inStart = false ∧
      ((s.call c').inStop = true → c = .executor ∧ (s.call c').joining = true)))
  | .call _ .destroy => inferInstanceAs (Decidable (∀ c', s.call c' = .idle))
  | .call _ (.control _) | .call _ .ring | .advance _ _ | .post _ _ | .dispatch _ _ | .operation _
  | .complete _ | .read _ | .runOne _ | .executor | .handlerReturn _ | .callbackReturn | .throws
  | .exit => isTrue trivial

variable {maxPriority : Int} {s s' : State ι κ}

/-! ## Who acts -/

/-- A step is a step of a call, or the calls stay where they are. -/
inductive Acts (s s' : State ι κ) : Prop where
  | calls (c : Caller ι) (pc : CallPc) (hwho : s.mayCall c = true ∨ s.call c ≠ .idle)
      (hex : s'.executor = s.executor) (hcall : s'.call = Function.update s.call c pc)
  | creates (c : Caller ι) (hpc : s.call c = .createThread) (hex : s'.executor = some .polling)
      (hcall : s'.call = Function.update s.call c .setHandle)
  | runs (hcall : s'.call = s.call) (hidle : s'.executor = s.executor ∨ s.call .executor = .idle ∨
      s.executor ≠ some .callback ∧ ∀ b, s.executor ≠ some (.handler b))
      (hhandler : ∀ b, s'.executor = some (.handler b) → s.executor = some (.handler b) ∨ b = false)

/-- A step acts for one caller, or for none. -/
theorem StepSpec.acts {e : Event ι κ} (hstep : StepSpec maxPriority s e s') : Acts s s' := by
  -- the executor thread is outside of the user's code and stays there
  have hruns : ∀ {pc pc' : ExecutorPc}, s'.call = s.call → s.executor = some pc →
      pc ≠ .callback → (∀ b, pc ≠ .handler b) → s'.executor = some pc' →
      (∀ b, pc' = .handler b → b = false) → Acts s s' := by
    intro pc pc' hcall hs hcallback hhandler hex hpc'
    refine .runs hcall (.inr (.inr ⟨?_, fun b => ?_⟩)) fun b hb => .inr (hpc' b ?_)
    · rw [hs]
      exact fun h => hcallback (Option.some.inj h)
    · rw [hs]
      exact fun h => hhandler b (Option.some.inj h)
    · exact Option.some.inj (hex.symm.trans hb)
  cases hstep with
  | startStopped c hmay | startCalled c hmay | stopCalled c f call hmay | controlRefused c op hmay
  | controlCalled c op hmay | ringArmed c hmay | ringUnarmed c hmay =>
    exact .calls c _ (.inl hmay) rfl rfl
  | startAgain c answer hpc | startFirst c answer hpc | eventfd c fd hpc | assign c fd answer hpc
  | arm c answer hpc | startWait c answer hpc | setHandle c answer hpc | publish c answer hpc
  | isJoinable c answer call hpc | postCancel c answer call hpc | resetWork c answer call hpc
  | stopContext c answer call hpc | controlStopping c answer op hpc | controlPassed c answer op hpc
  | pthreadFails c errno op hpc | write c answer hpc =>
    exact .calls c _ (.inr (by simp [hpc])) rfl rfl
  | startFails c errno ec hpc =>
    refine .calls c _ (.inr ?_) rfl rfl
    generalize s.call c = pc at hpc
    cases hpc <;> simp
  | createThread c answer hpc => exact .creates c hpc rfl rfl
  | notJoinable c answer call hpc =>
    exact .calls c .idle (.inr (by simp [hpc])) (stopReturn_executor s c call)
      (stopReturn_call s c call)
  | joinSelf answer call hpc =>
    exact .calls .executor .idle (.inr (by simp [hpc])) (stopReturn_executor s _ call)
      (stopReturn_call s _ call)
  | joinOther t answer call hpc =>
    exact .calls (.thread t) .idle (.inr (by simp [hpc]))
      (stopReturn_executor { s with thread := .joined } _ call)
      (stopReturn_call { s with thread := .joined } _ call)
  | pthread c answer op hpc =>
    cases op <;> exact .calls c .idle (.inr (by simp [hpc])) rfl rfl
  | post | dispatchInside | dispatchOutside | operation | complete | read | throws =>
    exact .runs rfl (.inl rfl) fun b hb => .inl hb
  | runOne h io hpc =>
    cases h with
    | callback => exact hruns rfl hpc nofun nofun rfl nofun
    | cancelDoorbell => exact hruns rfl hpc nofun nofun rfl nofun
    | doorbell ec => cases ec <;> exact hruns rfl hpc nofun nofun rfl nofun
  | ignored hpc => rcases hpc with hpc | hpc <;> exact hruns rfl hpc nofun nofun rfl nofun
  | completed hpc =>
    refine hruns rfl hpc nofun nofun rfl fun b hb => ?_
    split at hb <;> cases hb
  | arming hpc => exact hruns rfl hpc nofun nofun rfl fun b hb => by cases hb; rfl
  | disarming hpc | rewriting hpc | checkedStopping hpc | checked hpc | restarting hpc
  | cancelling hpc | exit hpc => exact hruns rfl hpc nofun nofun rfl nofun
  | handlerReturn workRemains hpc hidle =>
    refine .runs rfl (.inr (.inl hidle)) fun b hb => ?_
    cases workRemains <;> cases hb
  | callbackReturn hpc hidle => exact .runs rfl (.inr (.inl hidle)) nofun

/-- The executor thread makes its calls from inside a callback or the doorbell handler. -/
structure Inside (s : State ι κ) : Prop where
  user : s.call .executor ≠ .idle →
    s.executor = some .callback ∨ ∃ b, s.executor = some (.handler b)
  handler : ∀ b, s.executor = some (.handler b) → b = false

/-- The thread of `run()` is inside a call only while it runs a handler. -/
theorem inside_step {e : Event ι κ} (h : Inside s) (hB : Born maxPriority s)
    (hstep : StepSpec maxPriority s e s') : Inside s' := by
  cases hstep.acts with
  | calls c pc hwho hex hcall =>
    refine ⟨fun hcalls => ?_, hex ▸ h.handler⟩
    rw [hex]
    rw [hcall, Function.update_apply] at hcalls
    split at hcalls
    · rename_i heq
      subst heq
      rcases hwho with hmay | hin
      · rw [State.mayCall, decide_eq_true_iff] at hmay
        exact hmay.2
      · exact h.user hin
    · exact h.user hcalls
  | creates c hpc hex hcall =>
    have hnone : s.executor = none := by
      have hbirth := (hB.birth c false (by rw [hpc]; rfl)).2.2
      exact Option.not_isSome_iff_eq_none.mp (by simp [hbirth])
    -- before the thread exists it makes no calls
    have hidle : s.call .executor = .idle := by
      by_contra hin
      rcases h.user hin with huser | ⟨b, huser⟩ <;> cases hnone.symm.trans huser
    refine ⟨fun hcalls => ?_, fun b hb => by cases hex.symm.trans hb⟩
    rw [hcall, Function.update_apply] at hcalls
    split at hcalls
    · rename_i heq
      rw [← heq, hidle] at hpc
      cases hpc
    · exact absurd hidle hcalls
  | runs hcall hidle hhandler =>
    refine ⟨fun hcalls => ?_, fun b hb => (hhandler b hb).elim (h.handler b) id⟩
    rw [hcall] at hcalls
    rcases hidle with hex | hidle | ⟨hcallback, hnot⟩
    · rw [hex]
      exact h.user hcalls
    · exact absurd hidle hcalls
    · rcases h.user hcalls with huser | ⟨b, huser⟩
      · exact absurd huser hcallback
      · exact absurd huser (hnot b)

/-! ## Calls of `stop()` do not overlap -/

/-- Past `thread.joinable()`. -/
def CallPc.ending : CallPc → Bool
  | .postCancel _ | .resetWork _ | .stopContext _ | .join _ => true
  | _ => false

/-- Past `work.reset()`. -/
def CallPc.released : CallPc → Bool
  | .stopContext _ | .join _ => true
  | _ => false

/-- What the two rules give. -/
structure Apart (s : State ι κ) : Prop where
  /-- once `stop()` has been called, no `start()` is under way -/
  started : s.isStopping = true → ∀ c, (s.call c).inStart = false
  /-- two calls of `stop()`: one is the executor's, and the other one is joining -/
  overlap : ∀ c c', (s.call c).inStop = true → (s.call c').inStop = true → c ≠ c' →
    c = .executor ∧ (s.call c').joining = true ∨ c' = .executor ∧ (s.call c).joining = true
  /-- nobody else joins the thread -/
  joinable : ∀ t, (s.call (.thread t)).ending = true → s.thread = .joinable
  released : ∀ c, (s.call c).released = true → s.io.work = false
  /-- a handler that destroys the executor does so while no other thread stops it -/
  alone : ∀ call, (s.call .executor).stopCall = some call → call.destructor = true →
    ∀ t, (s.call (.thread t)).inStop = false
  /-- another thread's `stop()` has returned -/
  returned : ∀ t r, (Caller.thread t, r) ∈ s.returned → r.call.stops = true →
    s.isStopping = true ∧ (s.executor = none ∨ s.executor = some .exited)

theorem CallPc.inStop_of_ending {pc : CallPc} (h : pc.ending = true) : pc.inStop = true := by
  cases pc <;> first | rfl | cases h

theorem CallPc.inStop_of_released {pc : CallPc} (h : pc.released = true) : pc.inStop = true := by
  cases pc <;> first | rfl | cases h

theorem CallPc.inStart_of_birth {pc : CallPc} {b : Bool} (h : pc.birth = some b) :
    pc.inStart = true := by
  simp [CallPc.inStart, h]

/-- Only `stop()` and the destructor store `is_stopping`. -/
theorem StepSpec.stopping_new {e : Event ι κ} (hstep : StepSpec maxPriority s e s')
    (hnot : s.isStopping = false) (hnow : s'.isStopping = true) :
    ∃ c f call, e = .call c f ∧ StopsWith f call ∧
      s' = { s with isStopping := true }.setCall c (.joinable call) := by
  cases hstep with
  | stopCalled c f call hmay hf => exact ⟨c, f, call, rfl, hf, rfl⟩
  | notJoinable c answer call =>
    exact absurd ((stopReturn_stopping s c call).symm.trans hnow) (by simp [hnot])
  | joinSelf answer call =>
    exact absurd ((stopReturn_stopping s .executor call).symm.trans hnow) (by simp [hnot])
  | joinOther t answer call =>
    have hsame := stopReturn_stopping { s with thread := .joined } (.thread t) call
    exact absurd (hsame.symm.trans hnow) (by simp [hnot])
  | pthread c answer op =>
    have hsame : (controlReturn s c op).isStopping = s.isStopping := by cases op <;> rfl
    exact absurd (hsame.symm.trans hnow) (by simp [hnot])
  | runOne h io =>
    cases h with
    | callback | cancelDoorbell => exact absurd hnow (by simp [enter, hnot])
    | doorbell ec => cases ec <;> exact absurd hnow (by simp [enter, hnot])
  | _ => exact absurd (hnot.symm.trans hnow) nofun

omit [DecidableEq ι] [DecidableEq κ] in
/-- What a user who calls `stop()` or the destructor promises. -/
theorem usedApart_stops {c : Caller ι} {f : Call} {call : StopCall} (hf : StopsWith f call)
    (hok : usedApart s (.call c f)) (c' : Caller ι) : (s.call c').inStart = false ∧
      ((s.call c').inStop = true → c = .executor ∧ (s.call c').joining = true) := by
  cases hf with
  | stop isForceStop => exact hok c'
  | destroy =>
    have hidle : s.call c' = .idle := hok c'
    rw [hidle]
    exact ⟨rfl, nofun⟩

/-- Once the flag is set no `start()` is under way: the two are not called at once. -/
theorem Apart.started_step {e : Event ι κ} (h : Apart s) (hB : Born maxPriority s)
    (hok : usedApart s e) (hstep : StepSpec maxPriority s e s') (hnow : s'.isStopping = true)
    (c : Caller ι) : (s'.call c).inStart = false := by
  cases hstopping : s.isStopping with
  | false =>
    obtain ⟨c', f, call, rfl, hf, rfl⟩ := hstep.stopping_new hstopping hnow
    rw [State.call_setCall]
    split
    · rfl
    · exact (usedApart_stops hf hok c).1
  | true =>
    have hnone := h.started hstopping
    have hnot : ∀ {c pc}, s.call c = pc → pc.inStart = true → False := by
      intro c pc hc hin
      rw [← hc, hnone c] at hin
      cases hin
    rcases hstep.births_or_elsewhere hB with hbirths | helse
    · cases hbirths with
      | first c' pc hc => exact (hnot hc rfl).elim
      | moves c' pc b hc => exact (hnot rfl (CallPc.inStart_of_birth hc)).elim
      | createThread c' hc => exact (hnot hc rfl).elim
      | setHandle c' hc => exact (hnot hc rfl).elim
      | publish c' hc => exact (hnot hc rfl).elim
      | join c' hc hexited hs' =>
        simp only [State.core, Prod.mk.injEq] at hs'
        rw [hs'.2.2.2.2.2, State.call_setCall]
        split
        · rfl
        · exact hnone c
    · rcases helse.call c with heq | ⟨hbirth, -, hexchange⟩
      · rw [heq]
        exact hnone c
      · have hne : s'.call c ≠ .exchange := fun hc => by simp [hexchange hc] at hstopping
        simp [CallPc.inStart, hbirth, hne]

/-- The first step of a call leaves the other calls. -/
theorem StepSpec.call_other {c c' : Caller ι} {f : Call}
    (hstep : StepSpec maxPriority s (.call c f) s') (hne : c' ≠ c) : s'.call c' = s.call c' := by
  cases hstep with
  | startStopped | controlRefused | ringUnarmed => rw [State.call_ret, if_neg hne]
  | startCalled | controlCalled => rw [State.call_setCall, if_neg hne]
  | stopCalled | ringArmed => rw [State.call_setCall, if_neg hne]

/-- A call that is in `stop()` after a step, and was not before, was made in this step. -/
theorem StepSpec.stop_called {e : Event ι κ} (hstep : StepSpec maxPriority s e s')
    {c : Caller ι} (hbefore : (s.call c).inStop = false) (hnow : (s'.call c).inStop = true) :
    ∃ f call, e = .call c f ∧ StopsWith f call := by
  rcases hstep.stop c with hsame | ⟨-, hout⟩ | hmoves
  · rw [← hsame, hnow] at hbefore
    cases hbefore
  · rw [hnow] at hout
    cases hout
  · cases hmoves with
    | called f call he hf => exact ⟨f, call, he, hf⟩
    | cancels call hfrom | skips call hfrom | posted call hfrom | forces call hfrom
    | waits call hfrom | stopped call hfrom =>
      rw [hfrom] at hbefore
      cases hbefore
    | returned call hfrom hreturned hidle =>
      rw [hidle] at hnow
      cases hnow

/-- Two calls are in `stop()` after a step, and the first was not before. -/
theorem StepSpec.overlap_new {e : Event ι κ} (hstep : StepSpec maxPriority s e s')
    (hok : usedApart s e) {c c' : Caller ι} (hne : c ≠ c') (hbefore : (s.call c).inStop = false)
    (hnow : (s'.call c).inStop = true) (hnow' : (s'.call c').inStop = true) :
    c = .executor ∧ (s'.call c').joining = true := by
  obtain ⟨f, call, rfl, hf⟩ := hstep.stop_called hbefore hnow
  rw [hstep.call_other (Ne.symm hne)] at hnow' ⊢
  exact (usedApart_stops hf hok c').2 hnow'

/-- A call that joins joins until it returns. -/
theorem StepSpec.joining {e : Event ι κ} (hstep : StepSpec maxPriority s e s') {c : Caller ι}
    (hjoining : (s.call c).joining = true) (hnow : (s'.call c).inStop = true) :
    (s'.call c).joining = true := by
  rcases hstep.stop c with hsame | ⟨-, hout⟩ | hmoves
  · rw [hsame]
    exact hjoining
  · rw [hnow] at hout
    cases hout
  · cases hmoves with
    | called f call he hf hfrom | cancels call hfrom | skips call hfrom | posted call hfrom
    | forces call hfrom | waits call hfrom | stopped call hfrom =>
      rw [hfrom] at hjoining
      cases hjoining
    | returned call hfrom hreturned hidle =>
      rw [hidle] at hnow
      cases hnow

/-- Two calls of `stop()` overlap only where one of them comes from a handler and the other
waits for it. -/
theorem Apart.overlap_step {e : Event ι κ} (h : Apart s) (hok : usedApart s e)
    (hstep : StepSpec maxPriority s e s') (c c' : Caller ι) (hnow : (s'.call c).inStop = true)
    (hnow' : (s'.call c').inStop = true) (hne : c ≠ c') :
    c = .executor ∧ (s'.call c').joining = true ∨
      c' = .executor ∧ (s'.call c).joining = true := by
  cases hc : (s.call c).inStop with
  | false => exact .inl (hstep.overlap_new hok hne hc hnow hnow')
  | true =>
    cases hc' : (s.call c').inStop with
    | false => exact .inr (hstep.overlap_new hok hne.symm hc' hnow' hnow)
    | true =>
      rcases h.overlap c c' hc hc' hne with ⟨hex, hjoining⟩ | ⟨hex, hjoining⟩
      · exact .inl ⟨hex, hstep.joining hjoining hnow'⟩
      · exact .inr ⟨hex, hstep.joining hjoining hnow⟩

/-! ## The thread is joined by the one call that waits for it -/

/-- What a step does to the `std::thread` object. -/
theorem StepSpec.thread {e : Event ι κ} (hstep : StepSpec maxPriority s e s') :
    s'.thread = s.thread ∨ (∃ c, s.call c = .createThread) ∨
      ∃ t call, s.call (.thread t) = .join call ∧ s.executor = some .exited ∧
        s'.call (.thread t) = .idle := by
  cases hstep with
  | createThread c answer hpc => exact .inr (.inl ⟨c, hpc⟩)
  | notJoinable c answer call =>
    refine .inl ?_
    unfold stopReturn
    split <;> rfl
  | joinSelf answer call =>
    refine .inl ?_
    unfold stopReturn
    split <;> rfl
  | joinOther t answer call hpc hexited =>
    refine .inr (.inr ⟨t, call, hpc, hexited, ?_⟩)
    rw [stopReturn_call, Function.update_self]
  | pthread c answer op => cases op <;> exact .inl rfl
  | runOne h io =>
    cases h with
    | callback | cancelDoorbell => exact .inl rfl
    | doorbell ec => cases ec <;> exact .inl rfl
  | _ => exact .inl rfl

/-- A `stop()` that is about to join has found a thread to join. -/
theorem Apart.joinable_step {e : Event ι κ} (h : Apart s) (hL : Looping s)
    (hstep : StepSpec maxPriority s e s') (t : ι) (hnow : (s'.call (.thread t)).ending = true) :
    s'.thread = .joinable := by
  have hin := CallPc.inStop_of_ending hnow
  -- it was past `joinable()` before, or has just found the thread joinable
  have hbefore : (s.call (.thread t)).inStop = true ∧ s.thread = .joinable := by
    rcases hstep.stop (.thread t) with hsame | ⟨-, hout⟩ | hmoves
    · rw [hsame] at hnow
      exact ⟨CallPc.inStop_of_ending hnow, h.joinable t hnow⟩
    · rw [hin] at hout
      cases hout
    · cases hmoves with
      | called f call he hf hfrom hstopping hc =>
        rw [hc] at hnow
        cases hnow
      | cancels call hfrom hthread | skips call hfrom hthread =>
        exact ⟨by rw [hfrom]; rfl, hthread⟩
      | posted call hfrom | forces call hfrom | waits call hfrom | stopped call hfrom =>
        exact ⟨by rw [hfrom]; rfl, h.joinable t (by rw [hfrom]; rfl)⟩
      | returned call hfrom hreturned hidle =>
        rw [hidle] at hin
        cases hin
  obtain ⟨hcall, hthread⟩ := hbefore
  rcases hstep.thread with hsame | ⟨c, hc⟩ | ⟨t', call, hjoin, -, hidle⟩
  · exact hsame.trans hthread
  · have hnot := h.started (hL.stopping _ hcall) c
    rw [hc] at hnot
    cases hnot
  · by_cases heq : t' = t
    · subst heq
      rw [hidle] at hin
      cases hin
    · have hne : Caller.thread t' ≠ .thread t := fun heq' => heq (Caller.thread.inj heq')
      rcases h.overlap _ _ (by rw [hjoin]; rfl) hcall hne with ⟨hex, -⟩ | ⟨hex, -⟩ <;> cases hex

/-- Past the release nothing holds the work guard again. -/
theorem Apart.released_step {e : Event ι κ} (h : Apart s) (hstep : StepSpec maxPriority s e s')
    (c : Caller ι) (hnow : (s'.call c).released = true) : s'.io.work = false := by
  have hkept : s.io.work = false → s'.io.work = false := by
    intro hwork
    cases hstep.loop with
    | same hio | posted _ _ hio | initiated _ _ hio | completed _ _ _ _ hio | created _ _ hio
    | moved _ _ _ _ _ hio | exited _ _ hio =>
      rw [hio]
      exact hwork
    | reset c call hc hio =>
      rw [hio]
      exact s.io.work_resetWork
    | stopped c call hc hio =>
      rw [hio, IoContext.work_stop]
      exact hwork
    | entered handler pc hpolling hio =>
      rw [(IoContext.runOne_eq_some hio).2.2.2.2.2.2.1]
      exact hwork
    | returned pc io hpc hs hbefore hio =>
      rw [hio, IoContext.work_finish]
      rcases hbefore with ⟨rfl, -⟩ | ⟨rfl, -⟩ | rfl <;> exact hwork
  rcases hstep.stop c with hsame | ⟨-, hout⟩ | hmoves
  · exact hkept (h.released c (hsame ▸ hnow))
  · rw [CallPc.inStop_of_released hnow] at hout
    cases hout
  · cases hmoves with
    | called f call he hf hfrom hstopping hc =>
      rw [hc] at hnow
      cases hnow
    | cancels call hfrom hthread hfd hc | skips call hfrom hthread hfd hc
    | posted call hfrom hio hc =>
      rw [hc] at hnow
      cases hnow
    | forces call hfrom hforce hio | waits call hfrom hforce hio =>
      rw [hio]
      exact s.io.work_resetWork
    | stopped call hfrom => exact hkept (h.released c (by rw [hfrom]; rfl))
    | returned call hfrom hreturned hidle =>
      rw [hidle] at hnow
      cases hnow

/-- Nothing runs while there is no thread. -/
theorem StepSpec.begun_of_none {e : Event ι κ} (hstep : StepSpec maxPriority s e s')
    (hnone : s.executor = none) : s'.io.begun = s.io.begun := by
  cases hstep.loop with
  | same hio | created _ _ hio => rw [hio]
  | posted _ _ hio | initiated _ _ hio | completed _ _ _ _ hio =>
    rw [hio]
    rfl
  | reset _ _ _ hio =>
    rw [hio]
    exact s.io.begun_resetWork
  | stopped _ _ _ hio =>
    rw [hio]
    exact s.io.begun_stop
  | entered _ _ hs | moved _ _ _ _ _ _ hs | returned _ _ _ hs | exited hs =>
    cases hnone.symm.trans hs

/-- Nothing creates the thread once `stop()` has been called. -/
theorem StepSpec.none_of_stopping {e : Event ι κ} (hstep : StepSpec maxPriority s e s')
    (h : Apart s) (hstopping : s.isStopping = true) (hnone : s.executor = none) :
    s'.executor = none := by
  cases hstep.loop with
  | same _ hex | posted _ _ _ hex | initiated _ _ _ hex | completed _ _ _ _ _ hex
  | reset _ _ _ _ hex | stopped _ _ _ _ hex => exact hex.trans hnone
  | created c hc =>
    have hnot := h.started hstopping c
    rw [hc] at hnot
    cases hnot
  | entered _ _ hs | moved _ _ _ _ _ _ hs | returned _ _ _ hs | exited hs =>
    cases hnone.symm.trans hs

/-- A `stop()` from outside returns only after the thread of `run()` has ended or was never
there. -/
theorem Apart.returned_step {e : Event ι κ} (h : Apart s) (hB : Born maxPriority s)
    (hL : Looping s) (hstep : StepSpec maxPriority s e s') (t : ι) (r : Returned)
    (hr : (Caller.thread t, r) ∈ s'.returned) (hstops : r.call.stops = true) :
    s'.isStopping = true ∧ (s'.executor = none ∨ s'.executor = some .exited) := by
  have hold : (Caller.thread t, r) ∈ s.returned →
      s'.isStopping = true ∧ (s'.executor = none ∨ s'.executor = some .exited) := by
    intro hmem
    obtain ⟨hstopping, hgone⟩ := h.returned t r hmem hstops
    refine ⟨hstep.stopping hstopping, hgone.imp ?_ ?_⟩
    · exact hstep.none_of_stopping h hstopping
    · exact fun hexited => (hstep.exited hB hexited).1
  cases hstep.reports with
  | silent heq => exact hold (heq ▸ hr)
  | other c r' hstart hnot heq =>
    rw [heq] at hr
    rcases List.mem_append.mp hr with hmem | hmem
    · exact hold hmem
    · obtain ⟨rfl, rfl⟩ := Prod.mk.inj (List.mem_singleton.mp hmem)
      rw [hstops] at hnot
      cases hnot
  | stopped c call hfrom hex heq =>
    rw [heq] at hr
    rcases List.mem_append.mp hr with hmem | hmem
    · exact hold hmem
    · obtain ⟨rfl, rfl⟩ := Prod.mk.inj (List.mem_singleton.mp hmem)
      rw [hex]
      rcases hfrom with ⟨hpc, hthread⟩ | ⟨hpc, hself | hexited⟩
      · refine ⟨hstep.stopping (hL.stopping _ (by rw [hpc]; rfl)), ?_⟩
        cases hobject : s.thread with
        | notCreated => exact .inl (hB.object.mp hobject)
        | joinable => exact absurd hobject hthread
        | joined => exact .inr (hB.joined hobject)
      · cases hself
      · exact ⟨hstep.stopping (hL.stopping _ (by rw [hpc]; rfl)), .inr hexited⟩
  | refused c heq | failed c ec hpc heq | succeeded c hpc hstarted heq =>
    rw [heq] at hr
    rcases List.mem_append.mp hr with hmem | hmem
    · exact hold hmem
    · obtain ⟨rfl, rfl⟩ := Prod.mk.inj (List.mem_singleton.mp hmem)
      cases hstops

/-- A destructor on the thread of `run()` is alone in the executor. -/
theorem Apart.alone_step {e : Event ι κ} (h : Apart s) (hok : usedApart s e)
    (hstep : StepSpec maxPriority s e s') (call : StopCall)
    (hcall : (s'.call .executor).stopCall = some call) (hdestructor : call.destructor = true)
    (t : ι) : (s'.call (.thread t)).inStop = false := by
  by_contra hin
  have hin : (s'.call (.thread t)).inStop = true := by simpa using hin
  -- the destructor was running: another thread may not call `stop()` now
  have hran : (s.call .executor).stopCall = some call → False := by
    intro hbefore
    obtain ⟨f, call', rfl, hf⟩ := hstep.stop_called (h.alone call hbefore hdestructor t) hin
    have hbusy : (s.call .executor).inStop = true := by
      cases hout : (s.call .executor).inStop with
      | true => rfl
      | false => simp [CallPc.stopCall_of_inStop hout] at hbefore
    cases ((usedApart_stops hf hok .executor).2 hbusy).1
  rcases hstep.stop .executor with hsame | ⟨-, hout⟩ | hmoves
  · exact hran (hsame ▸ hcall)
  · rw [CallPc.stopCall_of_inStop hout] at hcall
    cases hcall
  · cases hmoves with
    | called f call' he hf hfrom hstopping hc =>
      subst he
      rw [hc] at hcall
      cases hcall
      cases hf with
      | stop => cases hdestructor
      | destroy =>
        have hidle : s.call (.thread t) = .idle := hok (.thread t)
        have hne : Caller.thread t ≠ .executor := nofun
        rw [hstep.call_other hne, hidle] at hin
        cases hin
    | cancels call' hfrom hthread hfd hc | skips call' hfrom hthread hfd hc
    | posted call' hfrom hio hc | forces call' hfrom hforce hio hc
    | waits call' hfrom hforce hio hc | stopped call' hfrom hio hc =>
      rw [hc] at hcall
      cases hcall
      exact hran (by rw [hfrom]; rfl)
    | returned call' hfrom hreturned hc =>
      rw [hc] at hcall
      cases hcall

/-- The six facts, each kept by every step that uses the executor as its header asks. -/
theorem apart_step {e : Event ι κ} (h : Apart s) (hB : Born maxPriority s) (hL : Looping s)
    (hok : usedApart s e) (hstep : StepSpec maxPriority s e s') : Apart s' where
  started := h.started_step hB hok hstep
  overlap := h.overlap_step hok hstep
  joinable := h.joinable_step hL hstep
  released := h.released_step hstep
  alone := h.alone_step hok hstep
  returned := h.returned_step hB hL hstep

/-! ## The wait for the doorbell is always cancelled -/

/-- The thread is created and has not ended. -/
def State.alive (s : State ι κ) : Prop := s.executor ≠ none ∧ s.executor ≠ some .exited

/-- The doorbell is waited for, or is about to be. -/
def State.waits (s : State ι κ) : Prop :=
  (∃ op ∈ s.io.pending, op.isDoorbell = true) ∨ s.executor = some .restarting

/-- In `stop()`, before the callback that cancels the wait is posted. -/
def CallPc.beforeCancel : CallPc → Bool
  | .joinable _ | .postCancel _ => true
  | _ => false

theorem CallPc.inStop_of_beforeCancel {pc : CallPc} (h : pc.beforeCancel = true) :
    pc.inStop = true := by
  cases pc <;> first | rfl | cases h

/-- The callback that cancels the wait is ready, runs, or will be posted. -/
def State.willCancel (s : State ι κ) : Prop :=
  .cancelDoorbell ∈ s.io.ready ∨ s.executor = some .cancelling ∨
    ∃ c, (s.call c).beforeCancel = true

/-- A wait belongs to a doorbell that was set up, and `stop()` sees to it. -/
structure Belled (s : State ι κ) : Prop where
  handlers : ∀ h ∈ s.io.pending ++ s.io.ready, h.isDoorbell = true → 0 ≤ s.doorbellFd
  executor : ∀ pc, s.executor = some pc → inDoorbell pc = true → 0 ≤ s.doorbellFd
  setup : ∀ c, s.call c = .arm ∨ s.call c = .startWait → 0 ≤ s.doorbellFd
  owed : s.isStopping = true → s.alive → s.waits → s.willCancel

omit [DecidableEq ι] [DecidableEq κ] in
theorem Belled.fd_of_waits (h : Belled s) (hwaits : s.waits) : 0 ≤ s.doorbellFd := by
  rcases hwaits with ⟨op, hop, hbell⟩ | hpc
  · exact h.handlers op (List.mem_append_left _ hop) hbell
  · exact h.executor _ hpc rfl

omit [DecidableEq κ] in
theorem stopReturn_fd (s : State ι κ) (c : Caller ι) (call : StopCall) :
    (stopReturn s c call).doorbellFd = s.doorbellFd := by
  unfold stopReturn
  split <;> rfl

/-- The descriptor is set once, to what `::eventfd` returned. -/
theorem StepSpec.fd {e : Event ι κ} (hstep : StepSpec maxPriority s e s') (h : 0 ≤ s.doorbellFd) :
    0 ≤ s'.doorbellFd := by
  cases hstep with
  | assign c fd answer hpc => exact Int.natCast_nonneg fd
  | notJoinable c answer call => rw [stopReturn_fd]; exact h
  | joinSelf answer call => rw [stopReturn_fd]; exact h
  | joinOther t answer call => rw [stopReturn_fd]; exact h
  | pthread c answer op => cases op <;> exact h
  | runOne handler io =>
    cases handler with
    | callback | cancelDoorbell => exact h
    | doorbell ec => cases ec <;> exact h
  | _ => exact h

/-- A call at `arm` or `startWait` has just been given a descriptor, or was past it. -/
theorem StepSpec.setup {e : Event ι κ} (hstep : StepSpec maxPriority s e s') (h : Belled s)
    (c' : Caller ι) (hc' : s'.call c' = .arm ∨ s'.call c' = .startWait) : 0 ≤ s'.doorbellFd := by
  have hold : s.call c' = .arm ∨ s.call c' = .startWait → 0 ≤ s'.doorbellFd :=
    fun hc => hstep.fd (h.setup c' hc)
  -- a call that moved is now somewhere else
  have hmoved : ∀ c pc, s'.call = Function.update s.call c pc → pc ≠ .arm → pc ≠ .startWait →
      0 ≤ s'.doorbellFd := by
    intro c pc hcall harm hwait
    rw [hcall, Function.update_apply] at hc'
    split at hc'
    · exact (hc'.elim harm hwait).elim
    · exact hold hc'
  cases hstep with
  | assign c fd answer hpc => exact Int.natCast_nonneg fd
  | arm c answer hpc => exact h.setup c (.inl hpc)
  | startStopped c | controlRefused c | ringUnarmed c | startAgain c | startFails c
  | controlStopping c | pthreadFails c | write c | publish c => exact hmoved c .idle rfl nofun nofun
  | startCalled c => exact hmoved c .exchange rfl nofun nofun
  | stopCalled c f call => exact hmoved c (.joinable call) rfl nofun nofun
  | controlCalled c op => exact hmoved c (.loadStopping op) rfl nofun nofun
  | ringArmed c => exact hmoved c .write rfl nofun nofun
  | startFirst c => refine hmoved c _ rfl ?_ ?_ <;> split <;> nofun
  | eventfd c fd => exact hmoved c (.assign fd) rfl nofun nofun
  | startWait c => exact hmoved c .createThread rfl nofun nofun
  | createThread c => exact hmoved c .setHandle rfl nofun nofun
  | setHandle c => exact hmoved c .publish rfl nofun nofun
  | isJoinable c => refine hmoved c _ rfl ?_ ?_ <;> split <;> nofun
  | postCancel c answer call => exact hmoved c (.resetWork call) rfl nofun nofun
  | resetWork c => refine hmoved c _ rfl ?_ ?_ <;> split <;> nofun
  | stopContext c answer call => exact hmoved c (.join call) rfl nofun nofun
  | notJoinable c answer call => exact hmoved c .idle (stopReturn_call s c call) nofun nofun
  | joinSelf answer call => exact hmoved .executor .idle (stopReturn_call s _ call) nofun nofun
  | joinOther t answer call =>
    exact hmoved (.thread t) .idle (stopReturn_call { s with thread := .joined } _ call) nofun nofun
  | controlPassed c answer op => exact hmoved c (.pthread op) rfl nofun nofun
  | pthread c answer op => exact hmoved c .idle (by cases op <;> rfl) nofun nofun
  | runOne handler io =>
    rw [enter_call] at hc'
    exact hold hc'
  | _ => exact hold hc'

/-- Where a completion or a wait of the doorbell comes from. -/
def Rings (s : State ι κ) : Prop :=
  (∃ h ∈ s.io.pending ++ s.io.ready, h.isDoorbell = true) ∨ (∃ c, s.call c = .startWait) ∨
    ∃ pc, s.executor = some pc ∧ inDoorbell pc = true

omit [DecidableEq ι] [DecidableEq κ] in
/-- Where a completion or a wait comes from the doorbell has been set up. -/
theorem Belled.fd_of_rings (h : Belled s) (hrings : Rings s) : 0 ≤ s.doorbellFd := by
  rcases hrings with ⟨handler, hmem, hbell⟩ | ⟨c, hc⟩ | ⟨pc, hpc, hbell⟩
  · exact h.handlers handler hmem hbell
  · exact h.setup c (.inr hc)
  · exact h.executor pc hpc hbell

omit [DecidableEq ι] in
/-- Only a doorbell handler, waiting or running, leads to another one. -/
theorem Loop.rings (hloop : Loop s s') (hrings : (∃ h ∈ s'.io.pending ++ s'.io.ready,
    h.isDoorbell = true) ∨ ∃ pc, s'.executor = some pc ∧ inDoorbell pc = true) : Rings s := by
  -- the executor is where it was, and every handler comes from an old one
  have hquiet : (∀ h ∈ s'.io.pending ++ s'.io.ready, h.isDoorbell = true → Rings s) →
      s'.executor = s.executor → Rings s := by
    intro hhandlers hex
    rcases hrings with ⟨h, hmem, hbell⟩ | ⟨pc, hpc, hbell⟩
    · exact hhandlers h hmem hbell
    · exact .inr (.inr ⟨pc, hex ▸ hpc, hbell⟩)
  have hold : ∀ h ∈ s.io.pending ++ s.io.ready, h.isDoorbell = true → Rings s :=
    fun h hmem hbell => .inl ⟨h, hmem, hbell⟩
  cases hloop with
  | same hio hex => exact hquiet (hio ▸ hold) hex
  | posted h hh hio hex =>
    refine hquiet (fun h' hmem hbell => ?_) hex
    rw [hio] at hmem
    have hmem : h' ∈ s.io.pending ++ (s.io.ready ++ [h]) := hmem
    rw [← List.append_assoc] at hmem
    rcases List.mem_append.mp hmem with hmem | hmem
    · exact hold h' hmem hbell
    · obtain rfl := List.mem_singleton.mp hmem
      rw [hh] at hbell
      cases hbell
  | initiated op hop hio hex =>
    refine hquiet (fun h' hmem hbell => ?_) hex
    rw [hio] at hmem
    have hmem : h' ∈ (s.io.pending ++ [op]) ++ s.io.ready := hmem
    simp only [List.mem_append, List.mem_singleton] at hmem
    rcases hmem with (hmem | rfl) | hmem
    · exact hold h' (List.mem_append_left _ hmem) hbell
    · rcases hop with hnot | hcall
      · rw [hnot] at hbell
        cases hbell
      · exact .inr (.inl hcall)
    · exact hold h' (List.mem_append_right _ hmem) hbell
  | completed op h hop hh hio hex =>
    refine hquiet (fun h' hmem hbell => ?_) hex
    rw [hio] at hmem
    have hmem : h' ∈ s.io.pending.erase op ++ (s.io.ready ++ [h]) := hmem
    simp only [List.mem_append, List.mem_singleton] at hmem
    rcases hmem with hmem | hmem | rfl
    · exact hold h' (List.mem_append_left _ (List.mem_of_mem_erase hmem)) hbell
    · exact hold h' (List.mem_append_right _ hmem) hbell
    · exact hold op (List.mem_append_left _ hop) (hh ▸ hbell)
  | reset c call hc hio hex =>
    refine hquiet (fun h' hmem hbell => hold h' ?_ hbell) hex
    rwa [hio, IoContext.pending_resetWork, IoContext.ready_resetWork] at hmem
  | stopped c call hc hio hex =>
    refine hquiet (fun h' hmem hbell => hold h' ?_ hbell) hex
    rwa [hio, IoContext.pending_stop, IoContext.ready_stop] at hmem
  | created c hc hio hex =>
    rcases hrings with ⟨h, hmem, hbell⟩ | ⟨pc, hpc, hbell⟩
    · exact hold h (hio ▸ hmem) hbell
    · cases hex.symm.trans hpc
      cases hbell
  | entered h pc hpolling hio hpc hbell' hrestarting hcancel hex =>
    obtain ⟨-, -, hmem', hready, hpending, -⟩ := IoContext.runOne_eq_some hio
    rcases hrings with ⟨h', hmem, hbell⟩ | ⟨pc', hpc', hbell⟩
    · rw [hpending, hready] at hmem
      rcases List.mem_append.mp hmem with hmem | hmem
      · exact hold h' (List.mem_append_left _ hmem) hbell
      · exact hold h' (List.mem_append_right _ (List.mem_of_mem_erase hmem)) hbell
    · cases hex.symm.trans hpc'
      exact hold h (List.mem_append_right _ hmem') (hbell' ▸ hbell)
  | moved pc pc' hpc hpc' hrestarting hio hs hex => exact .inr (.inr ⟨pc, hs, hpc⟩)
  | returned pc io hpc hs hbefore hio hex =>
    rcases hrings with ⟨h', hmem, hbell⟩ | ⟨pc', hpc', hbell⟩
    · rw [hio, IoContext.pending_finish, IoContext.ready_finish] at hmem
      rcases hbefore with ⟨rfl, -⟩ | ⟨rfl, rfl⟩ | rfl
      · exact hold h' hmem hbell
      · exact .inr (.inr ⟨_, hs, rfl⟩)
      · -- what the cancel makes ready was pending
        have hmem : h' ∈ s.io.pending.filter (fun op => !op.isDoorbell) ++
          (s.io.ready ++ (s.io.pending.filter Handler.isDoorbell).map
            fun _ => Handler.doorbell (some .operationAborted)) := hmem
        simp only [List.mem_append, List.mem_map, List.mem_filter] at hmem
        rcases hmem with ⟨hmem, -⟩ | hmem | ⟨op, ⟨hop, hopbell⟩, -⟩
        · exact hold h' (List.mem_append_left _ hmem) hbell
        · exact hold h' (List.mem_append_right _ hmem) hbell
        · exact hold op (List.mem_append_left _ hop) hopbell
    · cases hex.symm.trans hpc'
      cases hbell
  | exited hpolling hstopped hio hex =>
    rcases hrings with ⟨h, hmem, hbell⟩ | ⟨pc, hpc, hbell⟩
    · exact hold h (hio ▸ hmem) hbell
    · cases hex.symm.trans hpc
      cases hbell

omit [DecidableEq ι] [DecidableEq κ] in
/-- A thread that is alive has not been joined. -/
theorem Born.joinable_of_alive (hB : Born maxPriority s) (halive : s.alive) :
    s.thread = .joinable := by
  cases hthread : s.thread with
  | notCreated => exact absurd (hB.object.mp hthread) halive.1
  | joinable => rfl
  | joined => exact absurd (hB.joined hthread) halive.2

/-- The call that is to post the cancellation is still to do so, or has just done it. -/
theorem StepSpec.cancels {e : Event ι κ} (hstep : StepSpec maxPriority s e s')
    (hB : Born maxPriority s) (halive : s.alive) (hfd : 0 ≤ s.doorbellFd) {c : Caller ι}
    (hc : (s.call c).beforeCancel = true) : s'.willCancel := by
  rcases hstep.stop c with hsame | ⟨hout, -⟩ | hmoves
  · exact .inr (.inr ⟨c, hsame ▸ hc⟩)
  · rw [CallPc.inStop_of_beforeCancel hc] at hout
    cases hout
  · cases hmoves with
    | called f call he hf hfrom =>
      rw [hfrom] at hc
      cases hc
    | cancels call hfrom hthread hfd' hc' => exact .inr (.inr ⟨c, by rw [hc']; rfl⟩)
    | skips call hfrom hthread hnot => omega
    | posted call hfrom hio =>
      refine .inl ?_
      rw [hio]
      exact List.mem_append_right _ (List.mem_singleton.mpr rfl)
    | forces call hfrom | waits call hfrom | stopped call hfrom =>
      rw [hfrom] at hc
      cases hc
    | returned call hfrom =>
      rcases hfrom with ⟨hfrom, hthread⟩ | ⟨hfrom, -⟩
      · exact absurd (hB.joinable_of_alive halive) hthread
      · rw [hfrom] at hc
        cases hc

omit [DecidableEq ι] in
/-- The callback that cancels the wait stays ready until it is entered. -/
theorem Loop.ready_cancel (hloop : Loop s s') (h : .cancelDoorbell ∈ s.io.ready) :
    .cancelDoorbell ∈ s'.io.ready ∨ s'.executor = some .cancelling := by
  cases hloop with
  | same hio | created _ _ hio | moved _ _ _ _ _ hio | exited _ _ hio =>
    rw [hio]
    exact .inl h
  | posted _ _ hio =>
    rw [hio]
    exact .inl (List.mem_append_left _ h)
  | initiated _ _ hio =>
    rw [hio]
    exact .inl h
  | completed _ _ _ _ hio =>
    rw [hio]
    exact .inl (List.mem_append_left _ h)
  | reset _ _ _ hio =>
    rw [hio, IoContext.ready_resetWork]
    exact .inl h
  | stopped _ _ _ hio =>
    rw [hio, IoContext.ready_stop]
    exact .inl h
  | entered handler pc hpolling hio hpc hbell hrestarting hcancel hex =>
    by_cases heq : handler = .cancelDoorbell
    · rw [hex, hcancel heq]
      exact .inr rfl
    · rw [(IoContext.runOne_eq_some hio).2.2.2.1]
      exact .inl ((List.mem_erase_of_ne (Ne.symm heq)).mpr h)
  | returned pc io hpc hs hbefore hio =>
    rw [hio, IoContext.ready_finish]
    rcases hbefore with ⟨rfl, -⟩ | ⟨rfl, -⟩ | rfl
    · exact .inl h
    · exact .inl h
    · exact .inl (List.mem_append_left _ h)

omit [DecidableEq ι] in
/-- While the executor is being stopped no wait is started that was not on its way. -/
theorem Loop.waits_of_stopping (hloop : Loop s s') (hstopping : s.isStopping = true)
    (hquiet : ∀ c, (s.call c).inStart = false) (hwaits : s'.waits) :
    s.waits ∧ (s.executor = some .cancelling → s'.executor = some .cancelling) := by
  have hnot : ∀ {c pc}, s.call c = pc → pc.inStart = true → False := by
    intro c pc hc hin
    rw [← hc, hquiet c] at hin
    cases hin
  have hsame : (∀ op ∈ s'.io.pending, op.isDoorbell = true → op ∈ s.io.pending) →
      s'.executor = s.executor →
      s.waits ∧ (s.executor = some .cancelling → s'.executor = some .cancelling) := by
    intro hpending hex
    refine ⟨?_, fun h => hex.trans h⟩
    rcases hwaits with ⟨op, hop, hbell⟩ | hpc
    · exact .inl ⟨op, hpending op hop hbell, hbell⟩
    · exact .inr (hex ▸ hpc)
  cases hloop with
  | same hio hex => exact hsame (fun op hop _ => hio ▸ hop) hex
  | posted _ _ hio hex => exact hsame (fun op hop _ => by rw [hio] at hop; exact hop) hex
  | initiated op hop hio hex =>
    refine hsame (fun op' hop' hbell => ?_) hex
    rw [hio] at hop'
    rcases List.mem_append.mp hop' with hop' | hop'
    · exact hop'
    · obtain rfl := List.mem_singleton.mp hop'
      rcases hop with hcallback | ⟨c, hc⟩
      · rw [hcallback] at hbell
        cases hbell
      · exact (hnot hc rfl).elim
  | completed op h hop hh hio hex =>
    refine hsame (fun op' hop' _ => ?_) hex
    rw [hio] at hop'
    exact List.mem_of_mem_erase hop'
  | reset c call hc hio hex =>
    exact hsame (fun op hop _ => by rwa [hio, IoContext.pending_resetWork] at hop) hex
  | stopped c call hc hio hex =>
    exact hsame (fun op hop _ => by rwa [hio, IoContext.pending_stop] at hop) hex
  | created c hc => exact (hnot hc rfl).elim
  | entered h pc hpolling hio hpc hbell hrestarting hcancel hex =>
    refine ⟨?_, fun hpc => by cases hpolling.symm.trans hpc⟩
    rcases hwaits with ⟨op, hop, hopbell⟩ | hpc'
    · rw [(IoContext.runOne_eq_some hio).2.2.2.2.1] at hop
      exact .inl ⟨op, hop, hopbell⟩
    · exact absurd (Option.some.inj (hex.symm.trans hpc')) hrestarting
  | moved pc pc' hpc hpc' hrestarting hio hs hex =>
    refine ⟨?_, fun h => by cases hs.symm.trans h; cases hpc⟩
    rcases hwaits with ⟨op, hop, hopbell⟩ | hpc''
    · exact .inl ⟨op, hio ▸ hop, hopbell⟩
    · have hnow := hrestarting (Option.some.inj (hex.symm.trans hpc''))
      rw [hstopping] at hnow
      cases hnow
  | returned pc io hpc hs hbefore hio hex =>
    rcases hwaits with ⟨op, hop, hopbell⟩ | hpc'
    · rw [hio, IoContext.pending_finish] at hop
      rcases hbefore with ⟨rfl, hne⟩ | ⟨-, rfl⟩ | rfl
      · exact ⟨.inl ⟨op, hop, hopbell⟩, fun h => absurd (Option.some.inj (hs.symm.trans h)) hne⟩
      · exact ⟨.inr hs, fun h => by cases hs.symm.trans h⟩
      · -- the cancel leaves no wait pending
        have hnone := (List.mem_filter.mp hop).2
        rw [hopbell] at hnone
        cases hnone
    · cases hex.symm.trans hpc'
  | exited hpolling hstopped hio hex =>
    refine ⟨?_, fun h => by cases hpolling.symm.trans h⟩
    rcases hwaits with ⟨op, hop, hopbell⟩ | hpc'
    · exact .inl ⟨op, hio ▸ hop, hopbell⟩
    · cases hex.symm.trans hpc'

/-- A thread that is alive once `stop()` has been called was alive when it was. -/
theorem StepSpec.alive {e : Event ι κ} (hstep : StepSpec maxPriority s e s')
    (hB : Born maxPriority s) (h : Apart s) (hstopping : s.isStopping = true)
    (halive : s'.alive) : s.alive :=
  ⟨fun hnone => halive.1 (hstep.none_of_stopping h hstopping hnone),
    fun hexited => halive.2 (hstep.exited hB hexited).1⟩

/-- The doorbell is set up before the first wait, and a wait that `stop()` finds is
cancelled. -/
theorem belled_step {e : Event ι κ} (h : Belled s) (hB : Born maxPriority s) (hA : Apart s)
    (hstep : StepSpec maxPriority s e s') : Belled s' where
  handlers handler hmem hbell :=
    hstep.fd (h.fd_of_rings (hstep.loop.rings (.inl ⟨handler, hmem, hbell⟩)))
  executor pc hpc hbell := hstep.fd (h.fd_of_rings (hstep.loop.rings (.inr ⟨pc, hpc, hbell⟩)))
  setup := hstep.setup h
  owed := by
    intro hnow halive hwaits
    cases hstopping : s.isStopping with
    | false =>
      obtain ⟨c, f, call, -, -, rfl⟩ := hstep.stopping_new hstopping hnow
      refine .inr (.inr ⟨c, ?_⟩)
      rw [State.call_setCall, if_pos rfl]
      rfl
    | true =>
      have halive := hstep.alive hB hA hstopping halive
      obtain ⟨hwaits, hcancelling⟩ :=
        hstep.loop.waits_of_stopping hstopping (hA.started hstopping) hwaits
      rcases h.owed hstopping halive hwaits with hready | hpc | ⟨c, hc⟩
      · rcases hstep.loop.ready_cancel hready with hready | hpc
        · exact .inl hready
        · exact .inr (.inl hpc)
      · exact .inr (.inl (hcancelling hpc))
      · exact hstep.cancels hB halive (h.fd_of_waits hwaits) hc

/-- Everything that holds of an executor whose users keep the rules. -/
structure Invariant (maxPriority : Int) (s : State ι κ) : Prop where
  born : Born maxPriority s
  looping : Looping s
  inside : Inside s
  apart : Apart s
  belled : Belled s

/-- All the invariants together, as each needs the others. -/
theorem invariant_step {e : Event ι κ} (h : Invariant maxPriority s) (hok : usedApart s e)
    (he : step maxPriority s e = some s') : Invariant maxPriority s' := by
  have hstep := (step_spec he).2.2
  exact ⟨born_step h.born he, looping_step h.looping h.born hstep,
    inside_step h.inside h.born hstep, apart_step h.apart h.born h.looping hok hstep,
    belled_step h.belled h.born h.apart hstep⟩

omit [DecidableEq ι] [DecidableEq κ] in
/-- A new executor satisfies them. -/
theorem invariant_construct (hasDoorbellHandler : Bool) :
    Invariant maxPriority (construct ι κ hasDoorbellHandler) where
  born := born_construct hasDoorbellHandler
  looping := looping_construct hasDoorbellHandler
  inside := ⟨fun h => absurd rfl h, nofun⟩
  apart := ⟨nofun, nofun, nofun, nofun, nofun, nofun⟩
  belled := ⟨nofun, nofun, fun _ h => (by rcases h with h | h <;> cases h), nofun⟩

end CppComponents.Executor.Lifecycle
