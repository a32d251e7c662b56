import CppComponents.Executor.Starting

/-!
# Callbacks run once, and until the executor is stopped

What the executor does with its `io_context` is one of a few moves (`Loop`): a
handler becomes ready, an operation is started or completes, the work guard is
released, the loop is told to stop, and on the executor thread a handler is
entered, goes on or returns, until `run()` returns. The account that every
`IoContext` carries then says what becomes of the callbacks: each is run at most
once, by the executor thread, and all of them are run unless the executor was
stopped by force.
-/

namespace CppComponents.Executor.Lifecycle

open CppComponents.Transition

/-- Is the thread inside a handler? -/
def inHandler : ExecutorPc → Bool
  | .polling | .exited => false
  | _ => true

variable {ι κ : Type} [DecidableEq ι] [DecidableEq κ]

/-- Is the thread inside `handle_doorbell()`? -/
def inDoorbell : ExecutorPc → Bool
  | .failed | .completed | .stopping | .arming | .handler _ | .disarming | .rewriting | .checking
  | .restarting => true
  | _ => false

/-- Is it an operation, whose handler becomes ready when it completes? -/
def Handler.isOperation {κ : Type} : Handler κ → Bool
  | .callback _ | .doorbell none => true
  | _ => false

/-- What a step does with the `io_context` and the executor thread. -/
inductive Loop (s s' : State ι κ) : Prop where
  | same (hio : s'.io = s.io) (hex : s'.executor = s.executor)
  | posted (h : Handler κ) (hh : h.isDoorbell = false) (hio : s'.io = s.io.post h)
      (hex : s'.executor = s.executor)
  | initiated (op : Handler κ) (hop : op.isDoorbell = false ∨ ∃ c, s.call c = .startWait)
      (hio : s'.io = s.io.initiate op) (hex : s'.executor = s.executor)
      (hkind : op.isOperation = true)
  | completed (op h : Handler κ) (hop : op ∈ s.io.pending) (hh : h.isDoorbell = op.isDoorbell)
      (hio : s'.io = s.io.complete op h) (hex : s'.executor = s.executor)
  | reset (c : Caller ι) (call : StopCall) (hc : s.call c = .resetWork call)
      (hio : s'.io = s.io.resetWork) (hex : s'.executor = s.executor)
  | stopped (c : Caller ι) (call : StopCall) (hc : s.call c = .stopContext call)
      (hio : s'.io = s.io.stop) (hex : s'.executor = s.executor)
  | created (c : Caller ι) (hc : s.call c = .createThread) (hio : s'.io = s.io)
      (hex : s'.executor = some .polling)
  | entered (h : Handler κ) (pc : ExecutorPc) (hpolling : s.executor = some .polling)
      (hio : s.io.runOne h = some s'.io) (hpc : inHandler pc = true)
      (hbell : inDoorbell pc = h.isDoorbell) (hrestarting : pc ≠ .restarting)
      (hcancel : h = .cancelDoorbell → pc = .cancelling) (hex : s'.executor = some pc)
  | moved (pc pc' : ExecutorPc) (hpc : inDoorbell pc = true) (hpc' : inDoorbell pc' = true)
      (hrestarting : pc' = .restarting → s.isStopping = false) (hio : s'.io = s.io)
      (hs : s.executor = some pc) (hex : s'.executor = some pc')
  | returned (pc : ExecutorPc) (io : IoContext (Handler κ)) (hpc : inHandler pc = true)
      (hs : s.executor = some pc)
      (hbefore : io = s.io ∧ pc ≠ .cancelling ∨
        io = s.io.initiate (.doorbell none) ∧ pc = .restarting ∨
        io = s.io.cancel Handler.isDoorbell fun _ => .doorbell (some .operationAborted))
      (hio : s'.io = io.finish) (hex : s'.executor = some .polling)
  | exited (hpolling : s.executor = some .polling) (hstopped : s.io.stopped = true)
      (hio : s'.io = s.io) (hex : s'.executor = some .exited)

theorem inHandler_of_inDoorbell {pc : ExecutorPc} (h : inDoorbell pc = true) :
    inHandler pc = true := by
  cases pc <;> first | rfl | cases h

variable {maxPriority : Int} {s s' : State ι κ}

/-- The end of `stop()` leaves the loop of `run()` where it is. -/
theorem stopReturn_loop (s t : State ι κ) (c : Caller ι) (call : StopCall) (hio : t.io = s.io)
    (hex : t.executor = s.executor) : Loop s (stopReturn t c call) := by
  unfold stopReturn
  split
  · exact .same hio hex
  · exact .same hio hex

/-- Each step moves the loop of `run()` along, or leaves it. -/
theorem StepSpec.loop {e : Event ι κ} (hstep : StepSpec maxPriority s e s') : Loop s s' := by
  cases hstep with
  | startWait c answer hpc => exact .initiated _ (.inr ⟨c, hpc⟩) rfl rfl rfl
  | createThread c answer hpc => exact .created c hpc rfl rfl
  | notJoinable c answer call => exact stopReturn_loop s s c call rfl rfl
  | joinSelf answer call => exact stopReturn_loop s s .executor call rfl rfl
  | joinOther t answer call => exact stopReturn_loop s _ (.thread t) call rfl rfl
  | postCancel c answer call => exact .posted _ rfl rfl rfl
  | resetWork c answer call hpc => exact .reset c call hpc rfl rfl
  | stopContext c answer call hpc => exact .stopped c call hpc rfl rfl
  | pthread c answer op => cases op <;> exact .same rfl rfl
  | post c k => exact .posted (.callback k) rfl rfl rfl
  | dispatchOutside t k => exact .posted (.callback k) rfl rfl rfl
  | operation k => exact .initiated (.callback k) (.inl rfl) rfl rfl rfl
  | complete k hpending => exact .completed _ _ hpending rfl rfl rfl
  | read ec hpending => exact .completed _ (.doorbell ec) hpending rfl rfl rfl
  | runOne h io hpc hrun =>
    cases h with
    | callback k => exact .entered _ .callback hpc hrun rfl rfl nofun nofun rfl
    | cancelDoorbell => exact .entered _ .cancelling hpc hrun rfl rfl nofun (fun _ => rfl) rfl
    | doorbell ec =>
      cases ec with
      | none => exact .entered _ .completed hpc hrun rfl rfl nofun nofun rfl
      | some ec => exact .entered _ .failed hpc hrun rfl rfl nofun nofun rfl
  | ignored hpc =>
    rcases hpc with hpc | hpc
    · exact .returned _ s.io rfl hpc (.inl ⟨rfl, nofun⟩) rfl rfl
    · exact .returned _ s.io rfl hpc (.inl ⟨rfl, nofun⟩) rfl rfl
  | completed hpc =>
    refine .moved .completed (if s.isStopping then .stopping else .arming) rfl ?_ ?_ rfl hpc rfl
    · split <;> rfl
    · split <;> nofun
  | arming hpc => exact .moved _ (.handler false) rfl rfl nofun rfl hpc rfl
  | disarming hpc => exact .moved _ .rewriting rfl rfl nofun rfl hpc rfl
  | rewriting hpc => exact .moved _ .checking rfl rfl nofun rfl hpc rfl
  | checked hpc hstopping =>
    exact .moved _ .restarting rfl rfl (fun _ => hstopping) rfl hpc rfl
  | handlerReturn workRemains hpc =>
    refine .moved _ (if workRemains then .disarming else .checking) rfl ?_ ?_ rfl hpc rfl
    · split <;> rfl
    · split <;> nofun
  | checkedStopping hpc => exact .returned _ s.io rfl hpc (.inl ⟨rfl, nofun⟩) rfl rfl
  | restarting hpc => exact .returned _ _ rfl hpc (.inr (.inl ⟨rfl, rfl⟩)) rfl rfl
  | cancelling hpc => exact .returned _ _ rfl hpc (.inr (.inr rfl)) rfl rfl
  | callbackReturn hpc => exact .returned _ s.io rfl hpc (.inl ⟨rfl, nofun⟩) rfl rfl
  | exit hpc hstopped => exact .exited hpc hstopped rfl rfl
  | _ => exact .same rfl rfl

/-! ## The calls of `stop()` -/

/-- In `stop()`, or in the destructor's call of it. -/
def CallPc.inStop : CallPc → Bool
  | .joinable _ | .postCancel _ | .resetWork _ | .stopContext _ | .join _ => true
  | _ => false

/-- How a call of `stop()` moves. -/
inductive StopMoves (e : Event ι κ) (s s' : State ι κ) (c : Caller ι) : Prop where
  | called (f : Call) (call : StopCall) (he : e = .call c f) (hf : StopsWith f call)
      (hfrom : s.call c = .idle) (hstopping : s'.isStopping = true)
      (hc : s'.call c = .joinable call)
  | cancels (call : StopCall) (hfrom : s.call c = .joinable call) (hthread : s.thread = .joinable)
      (hfd : 0 ≤ s.doorbellFd) (hc : s'.call c = .postCancel call)
  | skips (call : StopCall) (hfrom : s.call c = .joinable call) (hthread : s.thread = .joinable)
      (hfd : s.doorbellFd < 0) (hc : s'.call c = .resetWork call)
  | posted (call : StopCall) (hfrom : s.call c = .postCancel call)
      (hio : s'.io = s.io.post .cancelDoorbell) (hc : s'.call c = .resetWork call)
  | forces (call : StopCall) (hfrom : s.call c = .resetWork call)
      (hforce : call.isForceStop = true) (hio : s'.io = s.io.resetWork)
      (hc : s'.call c = .stopContext call)
  | waits (call : StopCall) (hfrom : s.call c = .resetWork call)
      (hforce : call.isForceStop = false) (hio : s'.io = s.io.resetWork)
      (hc : s'.call c = .join call)
  | stopped (call : StopCall) (hfrom : s.call c = .stopContext call) (hio : s'.io = s.io.stop)
      (hc : s'.call c = .join call)
  | returned (call : StopCall) (hfrom : StopReturns s c call)
      (hreturned : s'.returned = s.returned ++ [(c, call.result)]) (hc : s'.call c = .idle)

/-- A call stays where it is, moves elsewhere, or moves in `stop()`. -/
def StopOrElse (e : Event ι κ) (s s' : State ι κ) (c : Caller ι) : Prop :=
  s'.call c = s.call c ∨ ((s.call c).inStop = false ∧ (s'.call c).inStop = false) ∨
    StopMoves e s s' c

omit [DecidableEq κ] in
/-- The caller that moves is the one to look at. -/
theorem StopOrElse.update {e : Event ι κ} (c : Caller ι) (pc : CallPc)
    (hcall : s'.call = Function.update s.call c pc)
    (hc : s'.call c = pc →
      ((s.call c).inStop = false ∧ pc.inStop = false) ∨ StopMoves e s s' c) (c' : Caller ι) :
    StopOrElse e s s' c' := by
  have hupdate : s'.call c' = if c' = c then pc else s.call c' := by
    rw [hcall, Function.update_apply]
  by_cases heq : c' = c
  · subst heq
    rw [if_pos rfl] at hupdate
    refine .inr ((hc hupdate).imp_left fun h => ⟨h.1, ?_⟩)
    rw [hupdate]
    exact h.2
  · rw [if_neg heq] at hupdate
    exact .inl hupdate

omit [DecidableEq κ] in
theorem stopReturn_call (s : State ι κ) (c : Caller ι) (call : StopCall) :
    (stopReturn s c call).call = Function.update s.call c .idle := by
  unfold stopReturn
  split <;> rfl

omit [DecidableEq ι] [DecidableEq κ] in
theorem enter_call (s : State ι κ) (h : Handler κ) : (enter s h).call = s.call := by
  cases h with
  | callback | cancelDoorbell => rfl
  | doorbell ec => cases ec <;> rfl

/-- A step that changes where a caller is inside `stop()` is a step of `stop()`. -/
theorem StepSpec.stop {e : Event ι κ} (hstep : StepSpec maxPriority s e s') (c' : Caller ι) :
    StopOrElse e s s' c' := by
  -- a call that goes from one place outside of `stop()` to another
  have houtside : ∀ c pc, s'.call = Function.update s.call c pc → (s.call c).inStop = false →
      pc.inStop = false → StopOrElse e s s' c' :=
    fun c pc hcall hfrom hpc => .update c pc hcall (fun _ => .inl ⟨hfrom, hpc⟩) c'
  have hmoves : ∀ c pc, s'.call = Function.update s.call c pc →
      (s'.call c = pc → StopMoves e s s' c) → StopOrElse e s s' c' :=
    fun c pc hcall hc => .update c pc hcall (fun h => .inr (hc h)) c'
  have hcalled : ∀ {c}, s.mayCall c → (s.call c).inStop = false := by
    intro c hmay
    rw [State.idle_of_mayCall hmay]
    rfl
  have hat : ∀ {c pc}, s.call c = pc → pc.inStop = false → (s.call c).inStop = false := by
    intro c pc hpc hout
    rw [hpc]
    exact hout
  cases hstep with
  | startStopped c hmay | controlRefused c op hmay | ringUnarmed c hmay =>
    exact houtside c .idle rfl (hcalled hmay) rfl
  | startCalled c hmay => exact houtside c .exchange rfl (hcalled hmay) rfl
  | controlCalled c op hmay => exact houtside c (.loadStopping op) rfl (hcalled hmay) rfl
  | ringArmed c hmay => exact houtside c .write rfl (hcalled hmay) rfl
  | startAgain c answer hpc | publish c answer hpc | controlStopping c answer op hpc
  | pthreadFails c errno op hpc | write c answer hpc => exact houtside c .idle rfl (hat hpc rfl) rfl
  | startFails c errno ec hpc =>
    refine houtside c .idle rfl ?_ rfl
    generalize s.call c = pc at hpc
    cases hpc <;> rfl
  | startFirst c answer hpc =>
    refine houtside c (if s.hasDoorbellHandler then .eventfd else .createThread) rfl
      (hat hpc rfl) ?_
    split <;> rfl
  | eventfd c fd hpc => exact houtside c (.assign fd) rfl (hat hpc rfl) rfl
  | assign c fd answer hpc => exact houtside c .arm rfl (hat hpc rfl) rfl
  | arm c answer hpc => exact houtside c .startWait rfl (hat hpc rfl) rfl
  | startWait c answer hpc => exact houtside c .createThread rfl (hat hpc rfl) rfl
  | createThread c answer hpc => exact houtside c .setHandle rfl (hat hpc rfl) rfl
  | setHandle c answer hpc => exact houtside c .publish rfl (hat hpc rfl) rfl
  | controlPassed c answer op hpc => exact houtside c (.pthread op) rfl (hat hpc rfl) rfl
  | pthread c answer op hpc => exact houtside c .idle (by cases op <;> rfl) (hat hpc rfl) rfl
  | stopCalled c f call hmay hf =>
    exact hmoves c (.joinable call) rfl fun hc =>
      .called f call rfl hf (State.idle_of_mayCall hmay) rfl hc
  | isJoinable c answer call hpc hthread =>
    by_cases hfd : 0 ≤ s.doorbellFd
    · refine .update c (.postCancel call) ?_ (fun hc => .inr ?_) c'
      · show Function.update _ _ _ = _
        rw [if_pos hfd]
      · exact .cancels call hpc hthread hfd hc
    · refine .update c (.resetWork call) ?_ (fun hc => .inr ?_) c'
      · show Function.update _ _ _ = _
        rw [if_neg hfd]
      · exact .skips call hpc hthread (by omega) hc
  | postCancel c answer call hpc =>
    exact .update c (.resetWork call) rfl (fun hc => .inr (.posted call hpc rfl hc)) c'
  | resetWork c answer call hpc =>
    cases hforce : call.isForceStop with
    | true =>
      exact .update c (.stopContext call) rfl (fun hc => .inr (.forces call hpc hforce rfl hc)) c'
    | false => exact .update c (.join call) rfl (fun hc => .inr (.waits call hpc hforce rfl hc)) c'
  | stopContext c answer call hpc =>
    exact .update c (.join call) rfl (fun hc => .inr (.stopped call hpc rfl hc)) c'
  | notJoinable c answer call hpc hthread =>
    exact .update c .idle (stopReturn_call s c call)
      (fun hc => .inr (.returned call (.inl ⟨hpc, hthread⟩) (stopReturn_returned s c call) hc)) c'
  | joinSelf answer call hpc =>
    exact .update .executor .idle (stopReturn_call s .executor call) (fun hc =>
      .inr (.returned call (.inr ⟨hpc, .inl rfl⟩) (stopReturn_returned s .executor call) hc)) c'
  | joinOther t answer call hpc hexited =>
    have hcall := stopReturn_call { s with thread := .joined } (.thread t) call
    have hreturned := stopReturn_returned { s with thread := .joined } (.thread t) call
    exact hmoves (.thread t) .idle hcall fun hc =>
      .returned call (.inr ⟨hpc, .inr hexited⟩) hreturned hc
  | runOne h io => exact .inl (congrFun (enter_call _ h) c')
  | _ => exact .inl rfl

/-! ## The loop and the thread -/

/-- Where the thread is goes with what the loop does, and only `stop()` ends it. -/
structure Looping (s : State ι κ) : Prop where
  running : s.io.running.isSome = s.executor.any inHandler
  exited : s.executor = some .exited → s.io.stopped = true
  settled : s.io.Settled
  stopping : ∀ c, (s.call c).inStop = true → s.isStopping = true
  released : s.io.work = false → s.isStopping = true
  stopped : s.io.stopped = true → s.isStopping = true

/-- A call that is in `stop()` now was, or `is_stopping` has just been stored. -/
theorem StepSpec.inStop {e : Event ι κ} (hstep : StepSpec maxPriority s e s') {c : Caller ι}
    (hc : (s'.call c).inStop = true) : (s.call c).inStop = true ∨ s'.isStopping = true := by
  rcases hstep.stop c with hsame | ⟨-, hout⟩ | hmoves
  · exact .inl (hsame ▸ hc)
  · rw [hout] at hc
    cases hc
  · cases hmoves with
    | called f call he hf hfrom hstopping => exact .inr hstopping
    | cancels call hfrom | skips call hfrom | posted call hfrom | forces call hfrom
    | waits call hfrom | stopped call hfrom =>
      rw [hfrom]
      exact .inl rfl
    | returned call hfrom hreturned hidle =>
      rw [hidle] at hc
      cases hc

omit [DecidableEq ι] [DecidableEq κ] in
/-- A handler becomes ready, or an operation is started or completes. -/
theorem Looping.quiet (h : Looping s) (hex : s'.executor = s.executor)
    (hrunning : s'.io.running = s.io.running) (hwork : s'.io.work = s.io.work)
    (hstopped : s'.io.stopped = s.io.stopped) (hsettled : s'.io.Settled)
    (hstopping : s.isStopping = true → s'.isStopping = true)
    (hcalls : ∀ c, (s'.call c).inStop = true → s'.isStopping = true) : Looping s' where
  running := by rw [hrunning, hex, h.running]
  exited := by
    rw [hex, hstopped]
    exact h.exited
  settled := hsettled
  stopping := hcalls
  released := by
    rw [hwork]
    exact fun hwork => hstopping (h.released hwork)
  stopped := by
    rw [hstopped]
    exact fun hs => hstopping (h.stopped hs)

omit [DecidableEq ι] in
/-- The loop stops, and its guard is released, for no other reason than `stop()`. -/
theorem Looping.loop (h : Looping s) (hB : Born maxPriority s) (hloop : Loop s s')
    (hstopping : s.isStopping = true → s'.isStopping = true)
    (hcalls : ∀ c, (s'.call c).inStop = true → s'.isStopping = true) : Looping s' := by
  have hreleased : s.io.work = false → s'.isStopping = true :=
    fun hwork => hstopping (h.released hwork)
  have hstopped : s.io.stopped = true → s'.isStopping = true := fun hs => hstopping (h.stopped hs)
  cases hloop with
  | same hio hex =>
    exact h.quiet hex (by rw [hio]) (by rw [hio]) (by rw [hio]) (hio ▸ h.settled) hstopping hcalls
  | posted handler _ hio hex =>
    exact h.quiet hex (by rw [hio]; rfl) (by rw [hio]; rfl) (by rw [hio]; rfl)
      (hio ▸ IoContext.settled_post _ _) hstopping hcalls
  | initiated op _ hio hex =>
    exact h.quiet hex (by rw [hio]; rfl) (by rw [hio]; rfl) (by rw [hio]; rfl)
      (hio ▸ IoContext.settled_initiate _ _) hstopping hcalls
  | completed op handler _ _ hio hex =>
    exact h.quiet hex (by rw [hio]; rfl) (by rw [hio]; rfl) (by rw [hio]; rfl)
      (hio ▸ IoContext.settled_complete _ _ _) hstopping hcalls
  | reset c call hc hio hex =>
    have hcaller : s'.isStopping = true := hstopping (h.stopping c (by rw [hc]; rfl))
    refine ⟨?_, ?_, hio ▸ s.io.settled_resetWork, hcalls, fun _ => hcaller, fun _ => hcaller⟩
    · rw [hio, hex, IoContext.running_resetWork, h.running]
    · intro hexited
      rw [hio, IoContext.stopped_resetWork]
      exact .inl (h.exited (hex ▸ hexited))
  | stopped c call hc hio hex =>
    have hcaller : s'.isStopping = true := hstopping (h.stopping c (by rw [hc]; rfl))
    refine ⟨?_, ?_, hio ▸ s.io.settled_stop, hcalls, fun _ => hcaller, fun _ => hcaller⟩
    · rw [hio, hex, IoContext.running_stop, h.running]
    · intro _
      rw [hio]
      exact s.io.stopped_stop
  | created c hc hio hex =>
    have hnone : s.executor = none := by
      have hbirth := (hB.birth c false (by rw [hc]; rfl)).2.2
      exact Option.not_isSome_iff_eq_none.mp (by simp [hbirth])
    refine ⟨?_, ?_, hio ▸ h.settled, hcalls, hio ▸ hreleased, hio ▸ hstopped⟩
    · rw [hio, hex, h.running, hnone]
      rfl
    · rw [hex]
      nofun
  | entered handler pc hpolling hio hpc _ _ _ hex =>
    obtain ⟨-, hnot, -, -, -, hrunning, hwork, hstopped', -⟩ := IoContext.runOne_eq_some hio
    refine ⟨?_, ?_, ?_, hcalls, hwork ▸ hreleased, ?_⟩
    · rw [hrunning, hex, Option.any_some, hpc]
      rfl
    · intro hexited
      rw [hex] at hexited
      cases hexited
      cases hpc
    · exact fun hout => absurd hout.2.2.2 (by simp [hrunning])
    · rw [hstopped']
      nofun
  | moved pc pc' hpc hpc' _ hio hs hex =>
    have hpc := inHandler_of_inDoorbell hpc
    have hpc' := inHandler_of_inDoorbell hpc'
    refine ⟨?_, ?_, hio ▸ h.settled, hcalls, hio ▸ hreleased, hio ▸ hstopped⟩
    · rw [hio, hex, h.running, hs, Option.any_some, Option.any_some, hpc, hpc']
    · intro hexited
      rw [hex] at hexited
      cases hexited
      cases hpc'
  | returned pc io hpc hs hbefore hio hex =>
    have hsame : io.work = s.io.work ∧ io.stopped = s.io.stopped := by
      rcases hbefore with ⟨rfl, -⟩ | ⟨rfl, -⟩ | rfl <;> exact ⟨rfl, rfl⟩
    refine ⟨?_, ?_, hio ▸ io.settled_finish, hcalls, ?_, ?_⟩
    · rw [hio, hex, IoContext.running_finish]
      rfl
    · rw [hex]
      nofun
    · rw [hio, IoContext.work_finish, hsame.1]
      exact hreleased
    · rw [hio, IoContext.stopped_finish, hsame.1, hsame.2]
      exact fun hor => hor.elim hstopped fun hout => hreleased hout.1
  | exited hpolling hdone hio hex =>
    refine ⟨?_, fun _ => hio ▸ hdone, hio ▸ h.settled, hcalls, hio ▸ hreleased, hio ▸ hstopped⟩
    rw [hio, hex, h.running, hpolling]
    rfl

/-- Where the thread is, what runs and whether the loop has ended go together in every
step. -/
theorem looping_step {e : Event ι κ} (h : Looping s) (hB : Born maxPriority s)
    (hstep : StepSpec maxPriority s e s') : Looping s' := by
  refine h.loop hB hstep.loop hstep.stopping fun c hc => ?_
  rcases hstep.inStop hc with hin | hstopping
  · exact hstep.stopping (h.stopping c hin)
  · exact hstopping

omit [DecidableEq ι] [DecidableEq κ] in
theorem looping_construct (hasDoorbellHandler : Bool) :
    Looping (construct ι κ hasDoorbellHandler) :=
  ⟨rfl, nofun, IoContext.settled_create, nofun, nofun, nofun⟩

/-- Both invariants hold in every reachable state. -/
theorem looping_of_reachable {ok : Guard (State ι κ) (Event ι κ)}
    (h : Reachable (system ι κ maxPriority) ok s) : Born maxPriority s ∧ Looping s := by
  refine h.invariant (I := fun s => Born maxPriority s ∧ Looping s) ?_ ?_
  · rintro s ⟨hasDoorbellHandler, rfl⟩
    exact ⟨born_construct hasDoorbellHandler, looping_construct hasDoorbellHandler⟩
  · rintro s e s' ⟨hB, hL⟩ - he
    exact ⟨born_step hB he, looping_step hL hB (step_spec he).2.2⟩

/-! ## Stopping by force -/

/-- The call of `stop()` that is under way. -/
def CallPc.stopCall : CallPc → Option StopCall
  | .joinable call | .postCancel call | .resetWork call | .stopContext call | .join call =>
    some call
  | _ => none

/-- `stop(true)` has been called, by the user or by the destructor. -/
def Forced (s : State ι κ) : Prop :=
  (∃ r ∈ s.returned, r.2.call = .stop true ∨ r.2.call = .destroy) ∨
    ∃ c call, (s.call c).stopCall = some call ∧ call.isForceStop = true

/-- The destructor stops by force, and only a forced stop cuts the loop short. -/
structure Forcing (s : State ι κ) : Prop where
  destructor : ∀ c call, (s.call c).stopCall = some call → call.destructor = true →
    call.isForceStop = true
  stopContext : ∀ c call, s.call c = .stopContext call → call.isForceStop = true
  cutShort : s.io.cutShort = true → Forced s

/-- Results are reported in the order of the calls' ends, and kept. -/
theorem StepSpec.returned_grows {e : Event ι κ} (hstep : StepSpec maxPriority s e s') :
    ∃ later, s'.returned = s.returned ++ later := by
  cases hstep.reports with
  | silent h => exact ⟨[], by simp [h]⟩
  | other c r hr hstops h => exact ⟨_, h⟩
  | stopped c call hfrom hex h => exact ⟨_, h⟩
  | refused c h => exact ⟨_, h⟩
  | failed c ec hpc h => exact ⟨_, h⟩
  | succeeded c hpc hstarted h => exact ⟨_, h⟩

omit [DecidableEq ι] [DecidableEq κ] in
/-- A call of `stop()` keeps its kind; one that is made by the destructor is forced. -/
theorem StopMoves.stopCall {e : Event ι κ} {c : Caller ι} {call : StopCall}
    (h : StopMoves e s s' c)
    (hcall : (s'.call c).stopCall = some call) :
    (s.call c).stopCall = some call ∨ (call.destructor = true → call.isForceStop = true) := by
  cases h with
  | called f call' he hf hfrom hstopping hc =>
    rw [hc] at hcall
    cases hcall
    -- the destructor stops by force
    cases hf with
    | stop => exact .inr nofun
    | destroy => exact .inr fun _ => rfl
  | cancels call' hfrom hthread hfd hc | skips call' hfrom hthread hfd hc
  | posted call' hfrom hio hc | forces call' hfrom hforce hio hc
  | waits call' hfrom hforce hio hc | stopped call' hfrom hio hc =>
    rw [hc] at hcall
    cases hcall
    rw [hfrom]
    exact .inl rfl
  | returned call' hfrom hreturned hc =>
    rw [hc] at hcall
    cases hcall

theorem CallPc.stopCall_of_inStop {pc : CallPc} (h : pc.inStop = false) : pc.stopCall = none := by
  cases pc <;> first | rfl | cases h

omit [DecidableEq ι] [DecidableEq κ] in
/-- A forced call goes on, or it has returned. -/
theorem StopMoves.forced {e : Event ι κ} {c : Caller ι} {call : StopCall}
    (hmoves : StopMoves e s s' c)
    (hcall : (s.call c).stopCall = some call) (hforce : call.isForceStop = true) : Forced s' := by
  cases hmoves with
  | called f call' he hf hfrom =>
    rw [hfrom] at hcall
    cases hcall
  | cancels call' hfrom hthread hfd hc | skips call' hfrom hthread hfd hc
  | posted call' hfrom hio hc | forces call' hfrom hforce' hio hc
  | waits call' hfrom hforce' hio hc | stopped call' hfrom hio hc =>
    rw [hfrom] at hcall
    cases hcall
    exact .inr ⟨c, call, by rw [hc]; rfl, hforce⟩
  | returned call' hfrom hreturned hc =>
    have hsame : call' = call := by
      rcases hfrom with ⟨hfrom, -⟩ | ⟨hfrom, -⟩
      · rw [hfrom] at hcall
        exact Option.some.inj hcall
      · rw [hfrom] at hcall
        exact Option.some.inj hcall
    subst hsame
    refine .inl ⟨(c, call'.result), by simp [hreturned], ?_⟩
    unfold StopCall.result
    split
    · exact .inr rfl
    · exact .inl (by rw [hforce])

/-- Handlers are cut short only once a forced `stop()` has stopped the context. -/
theorem forcing_step {e : Event ι κ} (h : Forcing s) (hstep : StepSpec maxPriority s e s') :
    Forcing s' := by
  have hforced : Forced s → Forced s' := by
    rintro (⟨r, hr, hcall⟩ | ⟨c, call, hcall, hforce⟩)
    · obtain ⟨later, hlater⟩ := hstep.returned_grows
      exact .inl ⟨r, by rw [hlater]; exact List.mem_append_left _ hr, hcall⟩
    · rcases hstep.stop c with hsame | ⟨hout, -⟩ | hmoves
      · exact .inr ⟨c, call, by rw [hsame, hcall], hforce⟩
      · rw [CallPc.stopCall_of_inStop hout] at hcall
        cases hcall
      · exact hmoves.forced hcall hforce
  refine ⟨fun c call hcall hdestructor => ?_, fun c call hc => ?_, fun hcut => ?_⟩
  · rcases hstep.stop c with hsame | ⟨-, hout⟩ | hmoves
    · exact h.destructor c call (hsame ▸ hcall) hdestructor
    · rw [CallPc.stopCall_of_inStop hout] at hcall
      cases hcall
    · rcases hmoves.stopCall hcall with hbefore | hnew
      · exact h.destructor c call hbefore hdestructor
      · exact hnew hdestructor
  · rcases hstep.stop c with hsame | ⟨-, hout⟩ | hmoves
    · exact h.stopContext c call (hsame ▸ hc)
    · rw [hc] at hout
      cases hout
    · cases hmoves with
      | forces call' hfrom hforce hio hc' =>
        rw [hc] at hc'
        cases hc'
        exact hforce
      | called f call' he hf hfrom hstopping hc' | cancels call' hfrom hthread hfd hc'
      | skips call' hfrom hthread hfd hc' | posted call' hfrom hio hc'
      | waits call' hfrom hforce hio hc' | stopped call' hfrom hio hc'
      | returned call' hfrom hreturned hc' =>
        rw [hc] at hc'
        cases hc'
  · -- the loop was cut short before, or a call is at `io_context.stop()` now
    cases hstep.loop with
    | same hio | posted _ _ hio | initiated _ _ hio | completed _ _ _ _ hio | created _ _ hio
    | moved _ _ _ _ _ hio | exited _ _ hio =>
      rw [hio] at hcut
      exact hforced (h.cutShort hcut)
    | reset c call hc hio =>
      rw [hio, IoContext.cutShort_resetWork] at hcut
      exact hforced (h.cutShort hcut)
    | stopped c call hc =>
      exact hforced (.inr ⟨c, call, by rw [hc]; rfl, h.stopContext c call hc⟩)
    | entered handler pc hpolling hio =>
      rw [(IoContext.runOne_eq_some hio).2.2.2.2.2.2.2.2.2] at hcut
      exact hforced (h.cutShort hcut)
    | returned pc io hpc hs hbefore hio =>
      rw [hio, IoContext.cutShort_finish] at hcut
      rcases hbefore with ⟨rfl, -⟩ | ⟨rfl, -⟩ | rfl <;> exact hforced (h.cutShort hcut)

/-- Only a forced stop cuts the loop short, in every reachable state. -/
theorem forcing_of_reachable {ok : Guard (State ι κ) (Event ι κ)}
    (h : Reachable (system ι κ maxPriority) ok s) : Forcing s := by
  refine h.invariant (I := Forcing) ?_ fun s e s' hI _ he => forcing_step hI (step_spec he).2.2
  rintro s ⟨hasDoorbellHandler, rfl⟩
  exact ⟨nofun, nofun, nofun⟩

/-! ## What becomes of the callbacks -/

/-- A thread that has ended stays ended, and runs nothing. -/
theorem StepSpec.exited {e : Event ι κ} (hstep : StepSpec maxPriority s e s')
    (hB : Born maxPriority s) (hexited : s.executor = some .exited) :
    s'.executor = some .exited ∧ s'.io.begun = s.io.begun := by
  cases hstep.loop with
  | same hio hex | posted _ _ hio hex | initiated _ _ hio hex | completed _ _ _ _ hio hex =>
    rw [hio, hex]
    exact ⟨hexited, rfl⟩
  | reset c call hc hio hex =>
    rw [hio, hex]
    exact ⟨hexited, s.io.begun_resetWork⟩
  | stopped c call hc hio hex =>
    rw [hio, hex]
    exact ⟨hexited, s.io.begun_stop⟩
  | created c hc =>
    have hbirth := (hB.birth c false (by rw [hc]; rfl)).2.2
    rw [hexited] at hbirth
    cases hbirth
  | entered handler pc hpolling => cases hpolling.symm.trans hexited
  | moved pc pc' hpc hpc' _ hio hs hex =>
    cases hs.symm.trans hexited
    cases hpc
  | returned pc io hpc hs =>
    cases hs.symm.trans hexited
    cases hpc
  | exited hpolling => cases hpolling.symm.trans hexited

/-- After `run()` has returned nothing begins, by induction on the run. -/
theorem exited_of_path {ok : Guard (State ι κ) (Event ι κ)} {t : State ι κ}
    (hB : Born maxPriority s) (hexited : s.executor = some .exited)
    (hpath : Path (system ι κ maxPriority) ok s t) :
    t.executor = some .exited ∧ t.io.begun = s.io.begun := by
  have hI : Born maxPriority t ∧ t.executor = some .exited ∧ t.io.begun = s.io.begun := by
    refine hpath.invariant
      (I := fun t => Born maxPriority t ∧ t.executor = some .exited ∧ t.io.begun = s.io.begun)
      ?_ ⟨hB, hexited, rfl⟩
    rintro u e u' ⟨hBu, hu, hbegun⟩ - he
    obtain ⟨hu', hbegun'⟩ := (step_spec he).2.2.exited hBu hu
    exact ⟨born_step hBu he, hu', hbegun'.trans hbegun⟩
  exact hI.2

/-- **Callbacks run once, on the executor thread, until it is stopped.** For every
interleaving: a handler that became ready (posted, dispatched from another thread, or of
an operation that completed) has begun exactly as often as it is no longer waiting; one
runs only while the thread is inside `run()`, one at a time; the thread ends for no other
reason than `stop()`. When it has ended, everything that was ready before the
`io_context` stopped has begun, unless `stop(true)` or the destructor was called, and
nothing begins any more. -/
theorem callbacks_run_once {ok : Guard (State ι κ) (Event ι κ)}
    (h : Reachable (system ι κ maxPriority) ok s) :
    (∀ handler, s.io.accepted.count handler =
      s.io.begun.count handler + s.io.ready.count handler) ∧
    (s.io.running.isSome = true ↔ ∃ pc, s.executor = some pc ∧ inHandler pc = true) ∧
    (s.executor = some .exited → s.isStopping = true ∧
      (s.io.accepted.Perm (s.io.begun ++ s.io.late) ∨ Forced s) ∧
      ∀ t, Path (system ι κ maxPriority) ok s t →
        t.executor = some .exited ∧ t.io.begun = s.io.begun) ∧
    (s.isStopping = false → s.io.late = []) := by
  obtain ⟨hB, hL⟩ := looping_of_reachable h
  refine ⟨s.io.count_begun, ?_, ?_, ?_⟩
  · rw [hL.running, Option.any_eq_true]
  · intro hexited
    have hstopped := hL.exited hexited
    refine ⟨hL.stopped hstopped, ?_, fun t => exited_of_path hB hexited⟩
    cases hcut : s.io.cutShort with
    | false => exact .inl (s.io.begun_of_ranOut hstopped hcut)
    | true => exact .inr ((forcing_of_reachable h).cutShort hcut)
  · intro hstopping
    have hstopped : s.io.stopped = false := by
      cases hs : s.io.stopped with
      | false => rfl
      | true => exact absurd (hL.stopped hs) (by simp [hstopping])
    exact (s.io.notStopped hstopped).1

/-- A callback is posted before the start, one is dispatched after it, and one is posted
when the executor has ended; a graceful stop lets the thread run the first two. -/
def gracefulStop : List (Event Bool Nat) :=
  [.post (.thread false) 5] ++ calls (.thread false) .start 4 ++
    [.dispatch (.thread true) 6, .runOne (.callback 6), .dispatch .executor 7, .callbackReturn] ++
    calls (.thread false) (.stop false) 2 ++
    [.runOne (.callback 5), .callbackReturn, .exit, .post (.thread true) 8]

/-- The late callback is left. -/
theorem callbacks_run_once_gracefulStop :
    ∃ s, run (system Bool Nat 99) anyStep (construct Bool Nat false) gracefulStop = some s ∧
      s.io.accepted.Perm ([.callback 6, .callback 5] ++ [.callback 8]) ∧
      ∀ t, Path (system Bool Nat 99) anyStep s t →
        t.io.begun = [.callback 6, .callback 5] := by
  have hany : (run (system Bool Nat 99) anyStep (construct Bool Nat false) gracefulStop).any
      (fun s => s.executor = some .exited ∧ s.io.begun = [.callback 6, .callback 5] ∧
        s.io.late = [.callback 8] ∧ s.returned = [(.thread false, ⟨.start, none, none⟩)] ∧
        s.call .executor = .idle ∧ s.call (.thread false) = .join ⟨false, false⟩ ∧
        s.call (.thread true) = .idle) = true := by decide
  obtain ⟨s, hrun, hs⟩ := (Option.any_eq_true _ _).mp hany
  obtain ⟨hexited, hbegun, hlate, hreturned, hexecutor, h0, h1⟩ := of_decide_eq_true hs
  have hreach : Reachable (system Bool Nat 99) anyStep s :=
    ⟨_, ⟨false, rfl⟩, Path.of_run gracefulStop hrun⟩
  obtain ⟨-, -, hend, -⟩ := callbacks_run_once hreach
  obtain ⟨-, hall, hnever⟩ := hend hexited
  have hgraceful : ¬Forced s := by
    rintro (⟨r, hr, hcall⟩ | ⟨c, call, hcall, hforce⟩)
    · rw [hreturned, List.mem_singleton] at hr
      simp [hr] at hcall
    · match c with
      | .executor => simp [hexecutor, CallPc.stopCall] at hcall
      | .thread false =>
        rw [h0] at hcall
        cases hcall
        cases hforce
      | .thread true => simp [h1, CallPc.stopCall] at hcall
  refine ⟨s, hrun, ?_, fun t hpath => (hnever t hpath).2.trans hbegun⟩
  rw [← hbegun, ← hlate]
  exact hall.resolve_right hgraceful

end CppComponents.Executor.Lifecycle
