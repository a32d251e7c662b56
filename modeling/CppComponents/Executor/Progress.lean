import CppComponents.Executor.Joining

/-!
# A thread that joins is not kept waiting

A thread that waits for the executor in `thread.join()` waits for no longer than the
handlers that are ready and the operations components have pending; when it stopped the
executor by force, for no longer than the handler that runs. Each step of the executor
thread and each completion lowers a rank, and until the thread has ended one of them is
always possible.
-/

namespace CppComponents.Executor.Lifecycle

open CppComponents.Transition

variable {ι κ : Type} [DecidableEq ι] [DecidableEq κ] {maxPriority : Int} {s s' : State ι κ}

/-! ## Each step of the executor thread brings its end closer -/

/-- The steps of the executor thread, and the completions of what is pending. -/
def Event.own : Event ι κ → Bool
  | .advance .executor _ | .complete _ | .read _ | .runOne _ | .executor | .handlerReturn _
  | .callbackReturn | .exit => true
  | _ => false

/-- The steps a ready handler takes at most, to be entered and to return. -/
def Handler.weight : Handler κ → Nat
  | .doorbell _ => 3
  | _ => 2

/-- The steps left in the handler and to the end of `run()`. -/
def pcRank : ExecutorPc → Nat
  | .exited => 0
  | .polling => 1
  | .callback | .cancelling | .failed | .stopping | .checking => 2
  | .completed | .rewriting => 3
  | .disarming => 4
  | .handler _ => 5
  -- a wait that is started after all completes
  | .arming | .restarting => 6

/-- The steps left in a call; `stop()` makes a callback ready. -/
def CallPc.rank : CallPc → Nat
  | .joinable _ => 7
  | .postCancel _ => 6
  | .resetWork _ => 3
  | .stopContext _ | .loadStopping _ => 2
  | .join _ | .pthread _ | .write => 1
  | _ => 0

def ioRank (io : IoContext (Handler κ)) : Nat :=
  (io.ready.map Handler.weight).sum + (io.pending.map fun op => op.weight + 1).sum

def State.rank (s : State ι κ) : Nat :=
  ioRank s.io + (s.executor.map pcRank).getD 0 + (s.call .executor).rank

theorem weight_erase {l : List (Handler κ)} {h : Handler κ} (f : Handler κ → Nat) (hmem : h ∈ l) :
    ((l.erase h).map f).sum + f h = (l.map f).sum := by
  rw [((List.perm_cons_erase hmem).map f).sum_nat, List.map_cons, List.sum_cons, Nat.add_comm]

omit [DecidableEq κ] in
/-- The waits that are cancelled become ready. -/
theorem weight_cancel (l : List (Handler κ)) :
    (((l.filter Handler.isDoorbell).map fun _ =>
        (Handler.doorbell (some .operationAborted) : Handler κ)).map Handler.weight).sum +
      ((l.filter fun op => !op.isDoorbell).map fun op => op.weight + 1).sum ≤
    (l.map fun op => op.weight + 1).sum := by
  induction l with
  | nil => exact Nat.le_refl _
  | cons op l ih =>
    cases hbell : op.isDoorbell with
    | false =>
      have hnot : (!op.isDoorbell) = true := by rw [hbell]; rfl
      rw [List.filter_cons_of_neg (by simp [hbell]),
        List.filter_cons_of_pos (p := fun op : Handler κ => !op.isDoorbell) hnot, List.map_cons,
        List.sum_cons, List.map_cons, List.sum_cons]
      omega
    | true =>
      have hweight : op.weight = 3 := by
        cases op with
        | doorbell => rfl
        | callback | cancelDoorbell => cases hbell
      rw [List.filter_cons_of_pos hbell, List.filter_cons_of_neg (by simp [hbell]), List.map_cons,
        List.map_cons, List.sum_cons, List.map_cons, List.sum_cons, hweight]
      show 3 + _ + _ ≤ _
      omega

omit [DecidableEq κ] in
/-- A posted handler raises the rank by what it will cost. -/
theorem ioRank_post (io : IoContext (Handler κ)) (h : Handler κ) :
    ioRank (io.post h) = ioRank io + h.weight := by
  show ((io.ready ++ [h]).map Handler.weight).sum +
    (io.pending.map fun op => op.weight + 1).sum = _
  rw [List.map_append, List.sum_append, List.map_singleton, List.sum_singleton]
  unfold ioRank
  omega

omit [DecidableEq κ] in
/-- An operation costs its handler and the completion. -/
theorem ioRank_initiate (io : IoContext (Handler κ)) (op : Handler κ) :
    ioRank (io.initiate op) = ioRank io + (op.weight + 1) := by
  show (io.ready.map Handler.weight).sum +
    ((io.pending ++ [op]).map fun op => op.weight + 1).sum = _
  rw [List.map_append, List.sum_append, List.map_singleton, List.sum_singleton]
  unfold ioRank
  omega

/-- A completion is a step down. -/
theorem ioRank_complete (io : IoContext (Handler κ)) {op h : Handler κ} (hop : op ∈ io.pending)
    (hweight : h.weight = op.weight) : ioRank (io.complete op h) + 1 = ioRank io := by
  have herase := weight_erase (fun op => op.weight + 1) hop
  show ((io.ready ++ [h]).map Handler.weight).sum +
    ((io.pending.erase op).map fun op => op.weight + 1).sum + 1 = _
  rw [List.map_append, List.sum_append, List.map_singleton, List.sum_singleton]
  unfold ioRank
  omega

omit [DecidableEq κ] in
theorem ioRank_finish (io : IoContext (Handler κ)) : ioRank io.finish = ioRank io := by
  rw [ioRank, IoContext.ready_finish, IoContext.pending_finish, ioRank]

omit [DecidableEq κ] in
theorem ioRank_resetWork (io : IoContext (Handler κ)) : ioRank io.resetWork = ioRank io := by
  rw [ioRank, IoContext.ready_resetWork, IoContext.pending_resetWork, ioRank]

omit [DecidableEq κ] in
theorem ioRank_stop (io : IoContext (Handler κ)) : ioRank io.stop = ioRank io := by
  rw [ioRank, IoContext.ready_stop, IoContext.pending_stop, ioRank]

/-- Beginning a handler spends its weight. -/
theorem ioRank_runOne {io io' : IoContext (Handler κ)} {h : Handler κ}
    (hrun : io.runOne h = some io') : ioRank io' + h.weight = ioRank io := by
  obtain ⟨-, -, hmem, hready, hpending, -⟩ := IoContext.runOne_eq_some hrun
  have herase := weight_erase Handler.weight hmem
  rw [ioRank, hready, hpending, ioRank]
  omega

omit [DecidableEq κ] in
/-- A cancelled wait costs no more than the wait. -/
theorem ioRank_cancel (io : IoContext (Handler κ)) :
    ioRank (io.cancel Handler.isDoorbell fun _ => .doorbell (some .operationAborted)) ≤
      ioRank io := by
  have hcancel := weight_cancel io.pending
  show ((io.ready ++ (io.pending.filter Handler.isDoorbell).map fun _ =>
      (Handler.doorbell (some .operationAborted) : Handler κ)).map Handler.weight).sum +
    ((io.pending.filter fun op => !op.isDoorbell).map fun op => op.weight + 1).sum ≤ _
  rw [List.map_append, List.sum_append]
  unfold ioRank
  omega

omit [DecidableEq κ] in
theorem stopReturn_io (s : State ι κ) (c : Caller ι) (call : StopCall) :
    (stopReturn s c call).io = s.io := by
  unfold stopReturn
  split <;> rfl

omit [DecidableEq ι] [DecidableEq κ] in
theorem rank_of_io (hex : s'.executor = s.executor) (hcall : s'.call = s.call)
    (hlt : ioRank s'.io < ioRank s.io) : s'.rank < s.rank := by
  rw [State.rank, hex, hcall, State.rank]
  omega

omit [DecidableEq κ] in
/-- The executor thread's call moves to `pc'`. -/
theorem rank_of_call {pc : CallPc} (pc' : CallPc) (hpc : s.call .executor = pc)
    (hex : s'.executor = s.executor) (hcall : s'.call = Function.update s.call .executor pc')
    (hlt : ioRank s'.io + pc'.rank < ioRank s.io + pc.rank) : s'.rank < s.rank := by
  rw [State.rank, hex, hcall, Function.update_self, State.rank, hpc]
  omega

omit [DecidableEq ι] [DecidableEq κ] in
/-- The executor thread itself moves to `pc'`. -/
theorem rank_of_executor {pc : ExecutorPc} (pc' : ExecutorPc) (hs : s.executor = some pc)
    (hex : s'.executor = some pc') (hcall : s'.call = s.call)
    (hlt : ioRank s'.io + pcRank pc' < ioRank s.io + pcRank pc) : s'.rank < s.rank := by
  rw [State.rank, hex, hcall, State.rank, hs]
  show _ + pcRank pc' + _ < _ + pcRank pc + _
  omega

/-- **The step rule.** Once `stop()` has been called, a step of the executor thread or a
completion brings the end of the thread closer. -/
theorem own_step {e : Event ι κ} (hI : Invariant maxPriority s) (hstopping : s.isStopping = true)
    (hown : e.own = true) (hstep : StepSpec maxPriority s e s') : s'.rank < s.rank := by
  have hnotStart : ∀ {c : Caller ι} {pc : CallPc}, s.call c = pc → pc.inStart = true → False := by
    intro c pc hpc hin
    rw [← hpc, hI.apart.started hstopping c] at hin
    cases hin
  have hself : ∀ {c : Caller ι} {answer : Except Nat Nat},
      (Event.advance c answer : Event ι κ).own = true → c = .executor := by
    intro c answer h
    cases c with
    | thread => cases h
    | executor => rfl
  cases hstep with
  | startStopped | startCalled | stopCalled | controlRefused | controlCalled | ringArmed
  | ringUnarmed | post | dispatchInside | dispatchOutside | operation | throws | joinOther =>
    cases hown
  -- no `start()` is under way
  | startAgain c answer hpc | startFirst c answer hpc | eventfd c fd hpc | assign c fd answer hpc
  | arm c answer hpc | startWait c answer hpc | createThread c answer hpc | setHandle c answer hpc
  | publish c answer hpc => exact (hnotStart hpc rfl).elim
  | startFails c errno ec hpc =>
    have hin := hI.apart.started hstopping c
    generalize s.call c = pc at hpc hin
    cases hpc <;> cases hin
  | notJoinable c answer call hpc =>
    obtain rfl := hself hown
    refine rank_of_call .idle hpc (stopReturn_executor s _ call) (stopReturn_call s _ call) ?_
    rw [stopReturn_io]
    exact Nat.add_lt_add_left (show 0 < 7 by decide) _
  | isJoinable c answer call hpc =>
    obtain rfl := hself hown
    refine rank_of_call _ hpc rfl rfl (Nat.add_lt_add_left ?_ _)
    split
    · exact show 6 < 7 by decide
    · exact show 3 < 7 by decide
  | postCancel c answer call hpc =>
    obtain rfl := hself hown
    -- the callback that is posted was counted
    refine rank_of_call (.resetWork call) hpc rfl rfl ?_
    show ioRank (s.io.post .cancelDoorbell) + 3 < ioRank s.io + 6
    rw [ioRank_post]
    show ioRank s.io + 2 + 3 < ioRank s.io + 6
    omega
  | resetWork c answer call hpc =>
    obtain rfl := hself hown
    refine rank_of_call _ hpc rfl rfl ?_
    show ioRank s.io.resetWork + _ < _
    rw [ioRank_resetWork]
    refine Nat.add_lt_add_left ?_ _
    split
    · exact show 2 < 3 by decide
    · exact show 1 < 3 by decide
  | stopContext c answer call hpc =>
    obtain rfl := hself hown
    refine rank_of_call (.join call) hpc rfl rfl ?_
    show ioRank s.io.stop + 1 < ioRank s.io + 2
    rw [ioRank_stop]
    omega
  | joinSelf answer call hpc =>
    refine rank_of_call .idle hpc (stopReturn_executor s _ call) (stopReturn_call s _ call) ?_
    rw [stopReturn_io]
    exact Nat.add_lt_add_left (show 0 < 1 by decide) _
  | controlStopping c answer op hpc =>
    obtain rfl := hself hown
    exact rank_of_call .idle hpc rfl rfl (Nat.add_lt_add_left (show 0 < 2 by decide) _)
  | controlPassed c answer op hpc hnot => simp [hstopping] at hnot
  | pthreadFails c errno op hpc =>
    obtain rfl := hself hown
    exact rank_of_call .idle hpc rfl rfl (Nat.add_lt_add_left (show 0 < 1 by decide) _)
  | pthread c answer op hpc =>
    obtain rfl := hself hown
    have hlt : ioRank s.io + 0 < ioRank s.io + 1 := Nat.lt_succ_self _
    cases op <;> exact rank_of_call .idle hpc rfl rfl hlt
  | write c answer hpc =>
    obtain rfl := hself hown
    exact rank_of_call .idle hpc rfl rfl (Nat.add_lt_add_left (show 0 < 1 by decide) _)
  | complete k hpending =>
    have hio := ioRank_complete (h := .callback k) s.io hpending rfl
    exact rank_of_io rfl rfl (show ioRank (s.io.complete _ _) < _ by omega)
  | read ec hpending =>
    have hio := ioRank_complete (h := .doorbell ec) s.io hpending rfl
    exact rank_of_io rfl rfl (show ioRank (s.io.complete _ _) < _ by omega)
  | runOne h io hpc hrun =>
    have hio := ioRank_runOne hrun
    cases h with
    | callback k =>
      refine rank_of_executor .callback hpc rfl rfl ?_
      show ioRank io + 2 < ioRank s.io + 1
      have hweight : (Handler.callback k).weight = 2 := rfl
      omega
    | cancelDoorbell =>
      refine rank_of_executor .cancelling hpc rfl rfl ?_
      show ioRank io + 2 < ioRank s.io + 1
      have hweight : (Handler.cancelDoorbell : Handler κ).weight = 2 := rfl
      omega
    | doorbell ec =>
      have hweight : (Handler.doorbell ec : Handler κ).weight = 3 := rfl
      cases ec with
      | none =>
        refine rank_of_executor .completed hpc rfl rfl ?_
        show ioRank io + 3 < ioRank s.io + 1
        omega
      | some ec =>
        refine rank_of_executor .failed hpc rfl rfl ?_
        show ioRank io + 2 < ioRank s.io + 1
        omega
  | ignored hpc =>
    rcases hpc with hpc | hpc
    · refine rank_of_executor .polling hpc rfl rfl ?_
      show ioRank s.io.finish + 1 < ioRank s.io + 2
      rw [ioRank_finish]
      omega
    · refine rank_of_executor .polling hpc rfl rfl ?_
      show ioRank s.io.finish + 1 < ioRank s.io + 2
      rw [ioRank_finish]
      omega
  | completed hpc =>
    refine rank_of_executor .stopping hpc (by rw [hstopping]; rfl) rfl ?_
    show ioRank s.io + 2 < ioRank s.io + 3
    omega
  | arming hpc =>
    refine rank_of_executor (.handler false) hpc rfl rfl ?_
    show ioRank s.io + 5 < ioRank s.io + 6
    omega
  | disarming hpc =>
    refine rank_of_executor .rewriting hpc rfl rfl ?_
    show ioRank s.io + 3 < ioRank s.io + 4
    omega
  | rewriting hpc =>
    refine rank_of_executor .checking hpc rfl rfl ?_
    show ioRank s.io + 2 < ioRank s.io + 3
    omega
  | checkedStopping hpc =>
    refine rank_of_executor .polling hpc rfl rfl ?_
    show ioRank s.io.finish + 1 < ioRank s.io + 2
    rw [ioRank_finish]
    omega
  | checked hpc hnot => simp [hstopping] at hnot
  | restarting hpc =>
    refine rank_of_executor .polling hpc rfl rfl ?_
    show ioRank (s.io.initiate (.doorbell none)).finish + 1 < ioRank s.io + 6
    rw [ioRank_finish, ioRank_initiate]
    show ioRank s.io + 4 + 1 < ioRank s.io + 6
    omega
  | cancelling hpc =>
    have hio := ioRank_cancel s.io
    refine rank_of_executor .polling hpc rfl rfl ?_
    show ioRank (s.io.cancel Handler.isDoorbell
      fun _ => .doorbell (some .operationAborted)).finish + 1 < ioRank s.io + 2
    rw [ioRank_finish]
    omega
  | handlerReturn workRemains hpc hidle =>
    cases workRemains with
    | true =>
      refine rank_of_executor .disarming hpc rfl rfl ?_
      show ioRank s.io + 4 < ioRank s.io + 5
      omega
    | false =>
      refine rank_of_executor .checking hpc rfl rfl ?_
      show ioRank s.io + 2 < ioRank s.io + 5
      omega
  | callbackReturn hpc hidle =>
    refine rank_of_executor .polling hpc rfl rfl ?_
    show ioRank s.io.finish + 1 < ioRank s.io + 2
    rw [ioRank_finish]
    omega
  | exit hpc hstopped =>
    refine rank_of_executor .exited hpc rfl rfl ?_
    show ioRank s.io + 0 < ioRank s.io + 1
    omega


/-! ## Something is always left to do -/

/-- What a thread that joins rests on: only operations are pending, and a forced stop has
stopped the loop. -/
structure Bounded (s : State ι κ) : Prop where
  operations : ∀ op ∈ s.io.pending, op.isOperation = true
  forced : ∀ c call, s.call c = .join call → call.isForceStop = true → s.io.stopped = true

omit [DecidableEq ι] in
/-- What the loop waits for stays an operation. -/
theorem Loop.operations (hloop : Loop s s') (h : ∀ op ∈ s.io.pending, op.isOperation = true) :
    ∀ op ∈ s'.io.pending, op.isOperation = true := by
  have hinitiate : ∀ op : Handler κ, op.isOperation = true →
      ∀ op' ∈ (s.io.initiate op).pending, op'.isOperation = true := by
    intro op hop op' hop'
    rcases List.mem_append.mp hop' with hop' | hop'
    · exact h op' hop'
    · rw [List.mem_singleton.mp hop']
      exact hop
  cases hloop with
  | same hio | posted _ _ hio | created _ _ hio | moved _ _ _ _ _ hio | exited _ _ hio =>
    rw [hio]
    exact h
  | initiated op hop hio hex hkind =>
    rw [hio]
    exact hinitiate op hkind
  | completed op handler hop hh hio =>
    rw [hio]
    exact fun op' hop' => h op' (List.mem_of_mem_erase hop')
  | reset c call hc hio =>
    rw [hio, IoContext.pending_resetWork]
    exact h
  | stopped c call hc hio =>
    rw [hio, IoContext.pending_stop]
    exact h
  | entered handler pc hpolling hio =>
    rw [(IoContext.runOne_eq_some hio).2.2.2.2.1]
    exact h
  | returned pc io hpc hs hbefore hio =>
    rw [hio, IoContext.pending_finish]
    rcases hbefore with ⟨rfl, -⟩ | ⟨rfl, -⟩ | rfl
    · exact h
    · exact hinitiate _ rfl
    · exact fun op hop => h op (List.mem_of_mem_filter hop)

omit [DecidableEq ι] in
/-- A loop that has stopped stays so. -/
theorem Loop.stays_stopped (hloop : Loop s s') (h : s.io.stopped = true) :
    s'.io.stopped = true := by
  cases hloop with
  | same hio | posted _ _ hio | initiated _ _ hio | completed _ _ _ _ hio | created _ _ hio
  | moved _ _ _ _ _ hio | exited _ _ hio =>
    rw [hio]
    exact h
  | reset c call hc hio =>
    rw [hio, IoContext.stopped_resetWork]
    exact .inl h
  | stopped c call hc hio =>
    rw [hio]
    exact s.io.stopped_stop
  | entered handler pc hpolling hio =>
    have hnot := (IoContext.runOne_eq_some hio).2.1
    rw [h] at hnot
    cases hnot
  | returned pc io hpc hs hbefore hio =>
    rw [hio, IoContext.stopped_finish]
    rcases hbefore with ⟨rfl, -⟩ | ⟨rfl, -⟩ | rfl <;> exact .inl h

/-- What a join rests on is kept by every step. -/
theorem bounded_step {e : Event ι κ} (h : Bounded s) (hstep : StepSpec maxPriority s e s') :
    Bounded s' where
  operations := hstep.loop.operations h.operations
  forced c call hc hforce := by
    rcases hstep.stop c with hsame | ⟨-, hout⟩ | hmoves
    · exact hstep.loop.stays_stopped (h.forced c call (hsame ▸ hc) hforce)
    · rw [hc] at hout
      cases hout
    · cases hmoves with
      | stopped call' hfrom hio =>
        rw [hio]
        exact s.io.stopped_stop
      | waits call' hfrom hgraceful hio hnow =>
        cases hnow.symm.trans hc
        rw [hforce] at hgraceful
        cases hgraceful
      | called _ _ _ _ _ _ hnow | cancels _ _ _ _ hnow | skips _ _ _ _ hnow | posted _ _ _ hnow
      | forces _ _ _ _ hnow | returned _ _ _ hnow => cases hnow.symm.trans hc

/-- What a join rests on holds of an executor whose users keep the rules. -/
theorem bounded_of_reachable (h : Reachable (system ι κ maxPriority) usedApart s) :
    Invariant maxPriority s ∧ Bounded s := by
  refine h.invariant (I := fun s => Invariant maxPriority s ∧ Bounded s) ?_ ?_
  · rintro s ⟨hasDoorbellHandler, rfl⟩
    exact ⟨invariant_construct hasDoorbellHandler, nofun, nofun⟩
  · rintro s e s' ⟨hI, hb⟩ hok he
    exact ⟨invariant_step hI hok he, bounded_step hb (step_spec he).2.2⟩

/-- The system or a component completes an operation. -/
def Event.completes : Event ι κ → Bool
  | .complete _ | .read _ => true
  | _ => false

/-- The executor thread can go on: by a step of its own, or once what is pending completes
where `waits` allows it to wait for that. -/
def State.goesOn (maxPriority : Int) (s : State ι κ) (waits : Bool) : Prop :=
  ∃ e : Event ι κ, e.own = true ∧ (e.completes = true → waits = true) ∧
    (step maxPriority s e).isSome = true

/-- A call from a handler can always go on. -/
theorem goesOn_call {waits : Bool} (hterminated : s.terminated = false)
    (hdestroyed : s.destroyed = false) (hcall : s.call .executor ≠ .idle) :
    s.goesOn maxPriority waits := by
  refine ⟨.advance .executor (.ok 0), rfl, nofun, ?_⟩
  simp only [step, hterminated, hdestroyed, Bool.false_eq_true, or_self, if_false]
  unfold advance
  cases hpc : s.call .executor with
  | idle => exact absurd hpc hcall
  | exchange =>
    simp only [startStep]
    split <;> rfl
  | joinable call =>
    simp only [stopStep]
    split <;> rfl
  | loadStopping op =>
    simp only [controlStep]
    split <;> rfl
  | join call =>
    simp only [stopStep]
    rfl
  | _ => rfl

/-- A thread in the loop has a handler to run, an operation to wait for, or nothing to do
at all. The wait for the doorbell is none of these. -/
theorem goesOn_polling (hI : Invariant maxPriority s) (hb : Bounded s)
    (hterminated : s.terminated = false) (hdestroyed : s.destroyed = false) {t : ι}
    {call : StopCall} (hjoin : s.call (.thread t) = .join call)
    (hpolling : s.executor = some .polling) : s.goesOn maxPriority (!call.isForceStop) := by
  have hrunning : s.io.running = none := by
    have hsome := hI.looping.running
    rw [hpolling] at hsome
    exact Option.not_isSome_iff_eq_none.mp (by simp [hsome, inHandler])
  cases hstopped : s.io.stopped with
  | true => exact ⟨.exit, rfl, nofun, by simp [step, hterminated, hdestroyed, hpolling, hstopped]⟩
  | false =>
    cases hready : s.io.ready with
    | cons h later =>
      have hmem : h ∈ s.io.ready := by simp [hready]
      refine ⟨.runOne h, rfl, nofun, ?_⟩
      simp [step, hterminated, hdestroyed, hpolling, IoContext.runOne, hrunning, hstopped, hmem]
    | nil =>
      -- the work guard was released before the join, so something is pending
      have hpending : s.io.pending ≠ [] := by
        intro hnil
        have hwork := hI.apart.released (.thread t) (by rw [hjoin]; rfl)
        have hsettled := hI.looping.settled ⟨hwork, hready, hnil, hrunning⟩
        rw [hstopped] at hsettled
        cases hsettled
      have hgraceful : (!call.isForceStop) = true := by
        cases hforce : call.isForceStop with
        | false => rfl
        | true =>
          have hyes := hb.forced _ _ hjoin hforce
          rw [hstopped] at hyes
          cases hyes
      obtain ⟨op, hop⟩ := List.exists_mem_of_ne_nil _ hpending
      cases op with
      | callback k =>
        exact ⟨.complete k, rfl, fun _ => hgraceful, by simp [step, hterminated, hdestroyed, hop]⟩
      | cancelDoorbell => cases hb.operations _ hop
      | doorbell ec =>
        -- a wait for the doorbell is owed its cancellation, which would be ready
        have hstopping := hI.looping.stopping (.thread t) (by rw [hjoin]; rfl)
        have halive : s.alive := ⟨by simp [hpolling], by simp [hpolling]⟩
        rcases hI.belled.owed hstopping halive (.inl ⟨_, hop, rfl⟩) with hcancel | hpc | ⟨c, hc⟩
        · rw [hready] at hcancel
          cases hcancel
        · cases hpolling.symm.trans hpc
        · have hne : c ≠ .thread t := by
            rintro rfl
            rw [hjoin] at hc
            cases hc
          rcases hI.apart.overlap c (.thread t) (CallPc.inStop_of_beforeCancel hc)
            (by rw [hjoin]; rfl) hne with ⟨rfl, -⟩ | ⟨hex, -⟩
          · have hcalls : s.call .executor ≠ .idle := fun hidle => by simp [hidle] at hc; cases hc
            rcases hI.inside.user hcalls with hpc | ⟨b, hpc⟩ <;> cases hpolling.symm.trans hpc
          · cases hex

/-- While a thread joins, the executor thread has ended or can go on. -/
theorem goesOn_of_joining (hI : Invariant maxPriority s) (hb : Bounded s)
    (hterminated : s.terminated = false) (hdestroyed : s.destroyed = false) {t : ι}
    {call : StopCall} (hjoin : s.call (.thread t) = .join call) :
    s.executor = some .exited ∨ s.goesOn maxPriority (!call.isForceStop) := by
  by_cases hcall : s.call .executor = .idle
  · cases hpc : s.executor with
    | none =>
      have hnone := hI.born.object.mpr hpc
      have hjoinable := hI.apart.joinable t (by rw [hjoin]; rfl)
      rw [hnone] at hjoinable
      cases hjoinable
    | some pc =>
      cases pc with
      | exited => exact .inl rfl
      | polling => exact .inr (goesOn_polling hI hb hterminated hdestroyed hjoin hpc)
      | callback =>
        refine .inr ⟨.callbackReturn, rfl, nofun, ?_⟩
        simp [step, hterminated, hdestroyed, hpc, hcall]
      | handler b =>
        have hb : b = false := hI.inside.handler b hpc
        subst hb
        refine .inr ⟨.handlerReturn false, rfl, nofun, ?_⟩
        simp [step, hterminated, hdestroyed, hpc, hcall]
      | checking =>
        refine .inr ⟨.executor, rfl, nofun, ?_⟩
        simp only [step, hterminated, hdestroyed, executorStep, hpc]
        cases s.isStopping <;> rfl
      | _ =>
        refine .inr ⟨.executor, rfl, nofun, ?_⟩
        simp [step, hterminated, hdestroyed, executorStep, hpc]
  · exact .inr (goesOn_call hterminated hdestroyed hcall)

/-! ## The join returns -/

/-- A step of the executor thread leaves a thread that joins where it is. -/
theorem own_call {e : Event ι κ} (hown : e.own = true) (hstep : StepSpec maxPriority s e s')
    (t : ι) : s'.call (.thread t) = s.call (.thread t) := by
  have hne : Caller.thread t ≠ .executor := by simp
  cases hstep with
  | startStopped | startCalled | stopCalled | controlRefused | controlCalled | ringArmed
  | ringUnarmed | post | dispatchInside | dispatchOutside | operation | throws | joinOther =>
    cases hown
  | startFirst c | eventfd c | assign c | arm c | startWait c | createThread c | setHandle c
  | isJoinable c | postCancel c | resetWork c | stopContext c | controlPassed c =>
    cases c with
    | thread => cases hown
    | executor => rw [State.call_setCall, if_neg hne]
  | startAgain c | startFails c | publish c | controlStopping c | pthreadFails c | write c =>
    cases c with
    | thread => cases hown
    | executor => rw [State.call_ret, if_neg hne]
  | notJoinable c answer call =>
    cases c with
    | thread => cases hown
    | executor =>
      rw [stopReturn_call, Function.update_of_ne hne]
  | joinSelf answer call =>
    rw [stopReturn_call, Function.update_of_ne hne]
  | pthread c answer op =>
    cases c with
    | thread => cases hown
    | executor => cases op <;> rw [controlReturn, State.call_ret, if_neg hne]
  | runOne h io => rw [enter_call]
  | _ => rfl

/-- The process goes on, unless a handler destroys the executor. -/
theorem own_alive {e : Event ι κ} (hown : e.own = true) (hstep : StepSpec maxPriority s e s') :
    (s'.terminated = s.terminated ∧ s'.destroyed = s.destroyed) ∨
      ∃ call, (s.call .executor).stopCall = some call ∧ call.destructor = true := by
  have hreturn : ∀ call : StopCall, (s.call .executor).stopCall = some call →
      ((stopReturn s .executor call).terminated = s.terminated ∧
        (stopReturn s .executor call).destroyed = s.destroyed) ∨
      ∃ call, (s.call .executor).stopCall = some call ∧ call.destructor = true := by
    intro call hcall
    cases hdestructor : call.destructor with
    | true => exact .inr ⟨call, hcall, hdestructor⟩
    | false =>
      refine .inl ?_
      rw [stopReturn, hdestructor]
      exact ⟨rfl, rfl⟩
  cases hstep with
  | notJoinable c answer call hpc =>
    cases c with
    | thread => cases hown
    | executor => exact hreturn call (by rw [hpc]; rfl)
  | joinSelf answer call hpc => exact hreturn call (by rw [hpc]; rfl)
  | joinOther | throws => cases hown
  | pthread c answer op => cases op <;> exact .inl ⟨rfl, rfl⟩
  | runOne h io =>
    cases h with
    | callback | cancelDoorbell => exact .inl ⟨rfl, rfl⟩
    | doorbell ec => cases ec <;> exact .inl ⟨rfl, rfl⟩
  | _ => exact .inl ⟨rfl, rfl⟩

omit [DecidableEq ι] [DecidableEq κ] in
theorem usedApart_own {e : Event ι κ} (hown : e.own = true) : usedApart s e := by
  cases e with
  | call => cases hown
  | _ => trivial

/-- A thread `t` joins, and the process goes on. -/
structure Joins (maxPriority : Int) (t : ι) (call : StopCall) (s : State ι κ) : Prop where
  invariant : Invariant maxPriority s
  bounded : Bounded s
  terminated : s.terminated = false
  destroyed : s.destroyed = false
  join : s.call (.thread t) = .join call

/-- A join that waits still waits after a step of the executor, and for less. -/
theorem joins_step {t : ι} {call : StopCall} {e : Event ι κ} (h : Joins maxPriority t call s)
    (hown : e.own = true) (he : step maxPriority s e = some s') :
    Joins maxPriority t call s' ∧ s'.rank < s.rank := by
  obtain ⟨hterminated, hdestroyed, hstep⟩ := step_spec he
  have hin : (s.call (.thread t)).inStop = true := by rw [h.join]; rfl
  have hstopping := h.invariant.looping.stopping _ hin
  refine ⟨⟨invariant_step h.invariant (usedApart_own hown) he, bounded_step h.bounded hstep, ?_, ?_,
    (own_call hown hstep t).trans h.join⟩, own_step h.invariant hstopping hown hstep⟩
  all_goals
    rcases own_alive hown hstep with ⟨hsame, hsame'⟩ | ⟨call', hcall, hdestructor⟩
  · exact hsame.trans hterminated
  · have hnot := h.invariant.apart.alone call' hcall hdestructor t
    rw [hin] at hnot
    cases hnot
  · exact hsame'.trans hdestroyed
  · have hnot := h.invariant.apart.alone call' hcall hdestructor t
    rw [hin] at hnot
    cases hnot

/-- A thread stops an executor that waits for its doorbell. -/
def stopping : List (Event Bool Nat) :=
  calls (.thread false) .start 8 ++ [.post (.thread false) 5] ++
    calls (.thread false) (.stop false) 3

/-- The executor thread runs what is ready, the wait that is cancelled included. -/
def drained : List (Event Bool Nat) :=
  [.runOne .cancelDoorbell, .executor, .runOne (.doorbell (some .operationAborted)), .executor,
    .runOne (.callback 5), .callbackReturn]

end CppComponents.Executor.Lifecycle
