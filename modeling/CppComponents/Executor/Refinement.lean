import CppComponents.Executor.Lifecycle
import CppComponents.Executor.Stopping

/-!
# The doorbell's executor is an executor

There are two models of the executor. The one of the doorbell counts the reads and the
writes of the eventfd and the items of a queue, and follows one executor from `start()`
through one graceful `stop()`. The one of the life cycle has every call of the public
interface and an `io_context` with handlers, and leaves the eventfd open. They agree:
whatever the first one does, the second one does too, with the same flags, the same
handlers waiting in the `io_context` and every thread at the same place.

The thread that calls `start()` and `stop()` is `none`, the producers are `some p`, and the
callback that calls `stop()` is one that this thread has posted just before.
-/

namespace CppComponents.Executor

open CppComponents.Transition Lifecycle

variable {ι : Type} [DecidableEq ι]

/-! ## What the two models have in common -/

/-- The life cycle does not know what the handler has seen of the queue. -/
def ExecutorPc.outer : ExecutorPc → ExecutorPc
  | .handler _ => .handler false
  | pc => pc

def graceful : StopCall := ⟨false, false⟩

omit [DecidableEq ι] in
/-- Where the call of each thread is. -/
def State.place (s : State ι) : Lifecycle.Caller (Option ι) → CallPc
  | .thread (some p) =>
    match s.producer p with
    | .writing => .write
    | _ => .idle
  | .thread none =>
    match s.stop with
    | .posting .external => .postCancel graceful
    | .resetting .external => .resetWork graceful
    | .joining => .join graceful
    | _ => .idle
  | .executor =>
    match s.stop with
    | .posting .callback | .posting .handler => .postCancel graceful
    | .resetting .callback | .resetting .handler => .resetWork graceful
    | _ => .idle

omit [DecidableEq ι] in
/-- How often a handler is ready. -/
def State.readyCount (s : State ι) : Handler Unit → Nat
  | .doorbell none => s.ready
  | .doorbell (some .operationAborted) => s.aborted
  | .cancelDoorbell => s.cancelPosted
  | _ => 0

/-- The kinds of handlers. -/
theorem forall_handler {P : Handler Unit → Prop} (hcallback : P (.callback ()))
    (hcancel : P .cancelDoorbell) (hread : P (.doorbell none))
    (haborted : P (.doorbell (some .operationAborted)))
    (hother : ∀ value, P (.doorbell (some (.other value)))) : ∀ h, P h
  | .callback () => hcallback
  | .cancelDoorbell => hcancel
  | .doorbell none => hread
  | .doorbell (some .operationAborted) => haborted
  | .doorbell (some (.other value)) => hother value

/-- Is the executor's thread between two handlers? -/
def State.IsBetween (s : State ι) : Prop := s.executor = .polling ∨ s.executor = .exited

/-- The handlers of the `io_context`. -/
structure Holds (s : State ι) (io : IoContext (Handler Unit)) : Prop where
  pending : io.pending = List.replicate s.waiting (.doorbell none)
  ready : ∀ h, io.ready.count h = s.readyCount h
  work : io.work = s.work
  running : io.running = none ↔ s.IsBetween
  stopped : io.stopped = true ↔ s.outOfWork ∧ s.IsBetween

/-- The two models agree. -/
structure Represents (s : State ι) (t : Lifecycle.State (Option ι) Unit) : Prop where
  alive : t.terminated = false ∧ t.destroyed = false
  doorbellFd : 0 ≤ t.doorbellFd
  doorbellArmed : t.doorbellArmed = s.doorbellArmed
  isStopping : t.isStopping = s.isStopping
  executor : t.executor = some s.executor.outer
  call : t.call = s.place
  io : Holds s t.io
  thread : s.stop = .notCalled → t.thread = .joinable
  guard : s.work = false → s.stop = .joining ∨ s.stop = .returned

namespace Holds

variable {s s' : State ι} {io : IoContext (Handler Unit)}

omit [DecidableEq ι]

/-- Nothing is ready and nothing pending exactly where all the counts are zero. -/
theorem isEmpty_iff (h : Holds s io) : io.ready = [] ∧ io.pending = [] ↔
    s.waiting = 0 ∧ s.ready = 0 ∧ s.aborted = 0 ∧ s.cancelPosted = 0 := by
  rw [h.pending, List.replicate_eq_nil_iff]
  constructor
  · rintro ⟨hnil, hwaiting⟩
    have hcount : ∀ h', s.readyCount h' = 0 := by
      intro h'
      rw [← h.ready, hnil, List.count_nil]
    exact ⟨hwaiting, hcount (.doorbell none), hcount (.doorbell (some .operationAborted)),
      hcount .cancelDoorbell⟩
  · rintro ⟨hwaiting, hready, haborted, hposted⟩
    refine ⟨List.eq_nil_iff_forall_not_mem.mpr fun h' hmem => ?_, hwaiting⟩
    have hpos := List.count_pos_iff.mpr hmem
    rw [h.ready] at hpos
    unfold State.readyCount at hpos
    split at hpos <;> omega

/-- The two loops run out of work together. -/
theorem outOfWork_iff (h : Holds s io) :
    io.work = false ∧ io.ready = [] ∧ io.pending = [] ↔ s.outOfWork := by
  rw [h.isEmpty_iff, h.work]
  rfl

theorem stopped_eq_false (h : Holds s io) (hleft : ¬ s.outOfWork ∨ ¬ s.IsBetween) :
    io.stopped = false := by
  rw [← Bool.not_eq_true, h.stopped]
  rintro ⟨hout, hbetween⟩
  exact hleft.elim (fun hn => hn hout) fun hn => hn hbetween

/-- Nothing happens in the `io_context`. -/
theorem same (h : Holds s io) (hwaiting : s'.waiting = s.waiting) (hready : s'.ready = s.ready)
    (haborted : s'.aborted = s.aborted) (hposted : s'.cancelPosted = s.cancelPosted)
    (hwork : s'.work = s.work) (hbetween : s'.IsBetween ↔ s.IsBetween) : Holds s' io where
  pending := by
    rw [hwaiting]
    exact h.pending
  ready := by
    intro h'
    rw [h.ready]
    revert h'
    exact forall_handler rfl hposted.symm hready.symm haborted.symm fun _ => rfl
  work := h.work.trans hwork.symm
  running := h.running.trans hbetween.symm
  stopped := by
    rw [h.stopped, hbetween, State.outOfWork, State.outOfWork, hwaiting, hready, haborted, hposted,
      hwork]

/-- The handler that runs returns. -/
theorem finish (h : Holds s io) (hinside : ¬ s.IsBetween) :
    Holds { s with executor := .polling } io.finish where
  pending := by
    rw [IoContext.pending_finish]
    exact h.pending
  ready := fun h' => by
    rw [IoContext.ready_finish]
    exact h.ready h'
  work := by
    rw [IoContext.work_finish]
    exact h.work
  running := by simp [State.IsBetween]
  stopped := by
    rw [IoContext.stopped_finish, h.outOfWork_iff, h.stopped_eq_false (.inr hinside)]
    constructor
    · rintro (hfalse | hout)
      · cases hfalse
      · exact ⟨hout, .inl rfl⟩
    · exact fun hout => .inr hout.1

/-- A handler that is ready can be taken. -/
theorem canTake (h : Holds s io) (hpc : s.executor = .polling)
    {h' : Handler Unit} (hready : 0 < s.readyCount h') : ∃ io', io.runOne h' = some io' := by
  have hrunning : io.running = none := h.running.mpr (.inl hpc)
  have hmem : h' ∈ io.ready := by
    rw [← List.count_pos_iff, h.ready]
    exact hready
  have hstopped : io.stopped = false := by
    refine h.stopped_eq_false (.inl fun hout => ?_)
    rw [(h.outOfWork_iff.mpr hout).2.1] at hmem
    cases hmem
  exact IoContext.exists_runOne hrunning hstopped hmem

/-- The thread takes the handler `h'`. -/
theorem take (h : Holds s io) {h' : Handler Unit} {io' : IoContext (Handler Unit)}
    (hrun : io.runOne h' = some io') (hinside : ¬ s'.IsBetween)
    (hwaiting : s'.waiting = s.waiting) (hwork : s'.work = s.work)
    (hready : ∀ x, s'.readyCount x = s.readyCount x - if x = h' then 1 else 0) :
    Holds s' io' := by
  obtain ⟨-, -, -, hready', hpending', hrunning', hwork', hstopped', -, -⟩ :=
    IoContext.runOne_eq_some hrun
  exact {
    pending := by rw [hpending', h.pending, hwaiting]
    ready := fun x => by
      rw [hready', List.count_erase, h.ready, hready]
      by_cases hx : x = h'
      · rw [if_pos hx, if_pos (by simp [hx])]
      · rw [if_neg hx, if_neg (by simpa using Ne.symm hx)]
    work := by rw [hwork', h.work, hwork]
    running := by simp [hrunning', hinside]
    stopped := by simp [hstopped', hinside] }

/-- While there is a work guard, a callback is posted and the thread takes it. -/
theorem runPosted (h : Holds s io) (hpc : s.executor = .polling) (hguard : s.work = true) :
    ∃ io', (io.post (.callback ())).runOne (.callback ()) = some io' ∧
      Holds { s with executor := .callback } io' := by
  have hrunning : io.running = none := h.running.mpr (.inl hpc)
  have hstopped : io.stopped = false := h.stopped_eq_false (.inl fun hout => by
    have hfalse := hout.1
    rw [hguard] at hfalse
    cases hfalse)
  have hmem : Handler.callback () ∈ (io.post (.callback ())).ready :=
    List.mem_append_right _ (List.mem_singleton_self _)
  obtain ⟨io', hrun⟩ : ∃ io', (io.post (.callback ())).runOne (.callback ()) = some io' :=
    IoContext.exists_runOne hrunning hstopped hmem
  obtain ⟨-, -, -, hready', hpending', hrunning', hwork', hstopped', -, -⟩ :=
    IoContext.runOne_eq_some hrun
  have hinside : ¬ State.IsBetween { s with executor := .callback } := by simp [State.IsBetween]
  exact ⟨io', hrun, {
    pending := hpending'.trans h.pending
    ready := fun x => by
      rw [hready', List.count_erase]
      show (io.ready ++ [Handler.callback ()]).count x - _ = s.readyCount x
      rw [List.count_append, List.count_singleton, h.ready]
      omega
    work := hwork'.trans h.work
    running := by simp [hrunning', hinside]
    stopped := by simp [hstopped', hinside] }⟩

/-- A handler is posted while there is a work guard. -/
theorem post (h : Holds s io) (hguard : s.work = true) (h' : Handler Unit)
    (hwaiting : s'.waiting = s.waiting) (hwork : s'.work = s.work)
    (hbetween : s'.IsBetween ↔ s.IsBetween)
    (hready : ∀ x, s'.readyCount x = s.readyCount x + if x = h' then 1 else 0) :
    Holds s' (io.post h') where
  pending := by
    rw [hwaiting]
    exact h.pending
  ready := fun x => by
    show (io.ready ++ [h']).count x = _
    rw [List.count_append, h.ready, hready, List.count_singleton]
    by_cases hx : x = h'
    · rw [if_pos hx, if_pos (by simp [hx])]
    · rw [if_neg hx, if_neg (by simpa using Ne.symm hx)]
  work := h.work.trans hwork.symm
  running := h.running.trans hbetween.symm
  stopped := by
    have hnot : ¬ s'.outOfWork := fun hout => by
      have hfalse := hout.1
      rw [hwork, hguard] at hfalse
      cases hfalse
    have hstopped : io.stopped = false := h.stopped_eq_false (.inl fun hout => by
      have hfalse := hout.1
      rw [hguard] at hfalse
      cases hfalse)
    show io.stopped = true ↔ _
    simp [hstopped, hnot]

/-- The work guard is released. -/
theorem resetWork (h : Holds s io) (hguard : s.work = true) :
    Holds { s with work := false } io.resetWork where
  pending := by
    rw [IoContext.pending_resetWork]
    exact h.pending
  ready := fun h' => by
    rw [IoContext.ready_resetWork]
    exact h.ready h'
  work := IoContext.work_resetWork io
  running := by
    rw [IoContext.running_resetWork]
    exact h.running
  stopped := by
    have hrunning := h.stopped_eq_false (.inl fun hout => by
      have hfalse := hout.1
      rw [hguard] at hfalse
      cases hfalse)
    rw [IoContext.stopped_resetWork, hrunning, ← and_assoc, h.isEmpty_iff, h.running]
    constructor
    · rintro (hfalse | ⟨hempty, hbetween⟩)
      · cases hfalse
      · exact ⟨⟨rfl, hempty⟩, hbetween⟩
    · exact fun hout => .inr ⟨hout.1.2, hout.2⟩

/-- The executor's thread starts the next wait. -/
theorem initiate (h : Holds s io) (hinside : ¬ s.IsBetween) :
    Holds { s with waiting := s.waiting + 1 } (io.initiate (.doorbell none)) where
  pending := by
    show io.pending ++ [.doorbell none] = _
    rw [h.pending, List.replicate_succ']
  ready := h.ready
  work := h.work
  running := h.running
  stopped := by
    show io.stopped = true ↔ _
    rw [h.stopped_eq_false (.inr hinside)]
    exact iff_of_false Bool.false_ne_true fun hout => hinside hout.2

/-- The executor's thread cancels the wait. -/
theorem cancel (h : Holds s io) (hinside : ¬ s.IsBetween) :
    Holds { s with waiting := 0, aborted := s.aborted + s.waiting }
      (io.cancel Handler.isDoorbell fun _ => .doorbell (some .operationAborted)) where
  pending := by
    show io.pending.filter (fun op => !op.isDoorbell) = _
    rw [h.pending, List.filter_replicate_of_neg (by decide)]
    rfl
  ready := fun h' => by
    show (io.ready ++ (io.pending.filter Handler.isDoorbell).map
      fun _ => Handler.doorbell (some .operationAborted)).count h' = _
    rw [h.pending, List.filter_replicate_of_pos (by decide), List.map_replicate,
      List.count_append, h.ready, List.count_replicate]
    revert h'
    exact forall_handler rfl rfl rfl rfl fun _ => rfl
  work := h.work
  running := h.running
  stopped := by
    show io.stopped = true ↔ _
    rw [h.stopped_eq_false (.inr hinside)]
    exact iff_of_false Bool.false_ne_true fun hout => hinside hout.2

/-- The wait has read the eventfd. -/
theorem read (h : Holds s io) (hwaiting : 0 < s.waiting) :
    Holds { s with waiting := s.waiting - 1, ready := s.ready + 1 }
      (io.complete (.doorbell none) (.doorbell none)) where
  pending := by
    show io.pending.erase (.doorbell none) = _
    rw [h.pending, List.erase_replicate]
    rfl
  ready := fun h' => by
    show (io.ready ++ [Handler.doorbell none]).count h' = _
    rw [List.count_append, h.ready]
    revert h'
    exact forall_handler rfl rfl rfl rfl fun _ => rfl
  work := h.work
  running := h.running
  stopped := by
    have hstopped : io.stopped = false := h.stopped_eq_false (.inl fun hout => by
      have hnone := hout.2.1
      omega)
    show io.stopped = true ↔ _
    rw [hstopped]
    refine iff_of_false Bool.false_ne_true fun hout => ?_
    have hready : s.ready + 1 = 0 := hout.1.2.2.1
    omega

end Holds

/-! ## Where the calls are -/

section Place

variable {s : State ι}

/-- Only the place of that producer changes. -/
theorem place_setProducer (s : State ι) (p : ι) (pc : ProducerPc) :
    (s.setProducer p pc).place =
      Function.update s.place (.thread (some p)) (if pc = .writing then .write else .idle) := by
  funext c
  cases c with
  | executor => rfl
  | thread t =>
    cases t with
    | none => rfl
    | some q =>
      by_cases hq : q = p
      · subst hq
        cases pc <;> simp [State.place, State.setProducer]
      · simp [State.place, State.setProducer, hq]

omit [DecidableEq ι]

theorem place_producer {p : ι} (hp : s.producer p ≠ .writing) :
    s.place (.thread (some p)) = .idle := by
  cases hpc : s.producer p with
  | writing => contradiction
  | idle | ringing => simp [State.place, hpc]

/-- The executor's thread is in no call unless its handler is inside `stop()`. -/
theorem place_executor (houtside : s.isInsideStop = false) : s.place .executor = .idle := by
  unfold State.isInsideStop at houtside
  cases hstop : s.stop with
  | notCalled | joining | returned => simp [State.place, hstop]
  | posting caller | resetting caller => cases caller <;> simp_all [State.place]

/-- The thread that makes a call of `stop()`. -/
def Caller.thread : Executor.Caller → Lifecycle.Caller (Option ι)
  | .external => .thread none
  | .callback | .handler => .executor

theorem place_notCalled (hstop : s.stop = .notCalled) (caller : Executor.Caller) :
    s.place caller.thread = .idle := by
  cases caller <;> simp [State.place, Caller.thread, hstop]

theorem place_posting {caller : Executor.Caller} (hstop : s.stop = .posting caller) :
    s.place caller.thread = .postCancel graceful := by
  cases caller <;> simp [State.place, Caller.thread, hstop]

theorem place_joining (hstop : s.stop = .joining) : s.place (.thread none) = .join graceful := by
  simp [State.place, hstop]

theorem place_resetting {caller : Executor.Caller} (hstop : s.stop = .resetting caller) :
    s.place caller.thread = .resetWork graceful := by
  cases caller <;> simp [State.place, Caller.thread, hstop]

end Place

/-- A step of `stop()`. -/
theorem place_stop {s s' : State ι} {caller : Executor.Caller} {pc : CallPc}
    (hproducer : s'.producer = s.producer) (hself : s'.place caller.thread = pc)
    (hother : ∀ caller' : Executor.Caller, caller'.thread (ι := ι) ≠ caller.thread →
      s'.place caller'.thread = s.place caller'.thread) :
    s'.place = Function.update s.place caller.thread pc := by
  funext c
  by_cases hc : c = caller.thread
  · rw [hc, Function.update_self, hself]
  · rw [Function.update_of_ne hc]
    cases c with
    | executor => exact hother .handler hc
    | thread t =>
      cases t with
      | none => exact hother .external hc
      | some p =>
        simp only [State.place, hproducer]

theorem place_call {s : State ι} (hstop : s.stop = .notCalled) (caller : Executor.Caller) :
    State.place { s with isStopping := true, stop := .posting caller } =
      Function.update s.place caller.thread (.postCancel graceful) := by
  refine place_stop rfl (place_posting rfl) fun caller' hne => ?_
  cases caller <;> cases caller' <;> simp_all [State.place, Caller.thread]

theorem place_post {s : State ι} {caller : Executor.Caller} (hstop : s.stop = .posting caller) :
    State.place { s with cancelPosted := s.cancelPosted + 1, stop := .resetting caller } =
      Function.update s.place caller.thread (.resetWork graceful) := by
  refine place_stop rfl (place_resetting rfl) fun caller' hne => ?_
  cases caller <;> cases caller' <;> simp_all [State.place, Caller.thread]

/-- A call from another thread goes on to join, one from the executor's own returns. -/
theorem place_reset {s : State ι} {caller : Executor.Caller} (hstop : s.stop = .resetting caller) :
    State.place { s with
        work := false, stop := if caller = .external then .joining else .returned } =
      Function.update s.place caller.thread
        (if caller = .external then .join graceful else .idle) := by
  refine place_stop rfl ?_ fun caller' hne => ?_
  · cases caller <;> simp [State.place, Caller.thread]
  · cases caller <;> cases caller' <;> simp_all [State.place, Caller.thread]

theorem place_join {s : State ι} (hstop : s.stop = .joining) :
    State.place { s with stop := .returned } = Function.update s.place (.thread none) .idle := by
  show _ = Function.update s.place Executor.Caller.external.thread .idle
  refine place_stop rfl rfl fun caller' hne => ?_
  cases caller' <;> simp_all [State.place, Caller.thread]

/-! ## What the life cycle does -/

variable {s s' : State ι} {t t' : Lifecycle.State (Option ι) Unit} {maxPriority : Int}

/-- From `t` the life cycle goes on to a state that agrees with `s`. -/
def Follows (maxPriority : Int) (t : Lifecycle.State (Option ι) Unit) (s : State ι) : Prop :=
  ∃ t', Path (Lifecycle.system (Option ι) Unit maxPriority) anyStep t t' ∧ Represents s t'

theorem Follows.stay (h : Represents s t) : Follows maxPriority t s := ⟨t, .refl t, h⟩

theorem Follows.after (e : Lifecycle.Event (Option ι) Unit)
    (t' : Lifecycle.State (Option ι) Unit)
    (he : Lifecycle.step maxPriority t e = some t') (h : Follows maxPriority t' s) :
    Follows maxPriority t s := by
  obtain ⟨t'', hpath, hR⟩ := h
  exact ⟨t'', (Path.single trivial he).trans hpath, hR⟩

namespace Represents

/-! ### Producers -/

/-- A producer enters `ring()`, after a push or without one. -/
theorem enterRing (h : Represents s t) {p : ι} (hp : s.producer p = .idle) (queue : Nat) :
    Represents { s.setProducer p .ringing with queue := queue } t where
  alive := h.alive
  doorbellFd := h.doorbellFd
  doorbellArmed := h.doorbellArmed
  isStopping := h.isStopping
  executor := h.executor
  call := by
    show t.call = (s.setProducer p .ringing).place
    have hidle : s.place (.thread (some p)) = .idle := place_producer (by simp [hp])
    rw [place_setProducer, if_neg (by decide), h.call, ← hidle, Function.update_eq_self]
  io := h.io.same rfl rfl rfl rfl rfl .rfl
  thread := h.thread
  guard := h.guard

/-- A step of a call that leaves the `io_context` and the executor's thread alone. -/
theorem called (h : Represents s t) (c : Lifecycle.Caller (Option ι)) (pc : CallPc)
    (armed : Bool) (returned : List (Lifecycle.Caller (Option ι) × Returned))
    (hplace : s'.place = Function.update s.place c pc) (harmed : armed = s'.doorbellArmed)
    (hstopping : s'.isStopping = s.isStopping) (hexecutor : s'.executor = s.executor)
    (hstop : s'.stop = s.stop) (hwork : s'.work = s.work) (hio : Holds s' t.io) :
    Represents s' { t with
      doorbellArmed := armed, call := Function.update t.call c pc, returned := returned } where
  alive := h.alive
  doorbellFd := h.doorbellFd
  doorbellArmed := harmed
  isStopping := h.isStopping.trans hstopping.symm
  executor := by
    rw [hexecutor]
    exact h.executor
  call := by rw [h.call, hplace]
  io := hio
  thread := by
    rw [hstop]
    exact h.thread
  guard := by
    rw [hwork, hstop]
    exact h.guard

/-- The call of `ring()` and its exchange are one step of the life cycle. -/
theorem exchange (h : Represents s t) {p : ι} (hp : s.producer p = .ringing) :
    Follows maxPriority t { s.setProducer p (if s.doorbellArmed then .writing else .idle) with
      doorbellArmed := false } := by
  have hidle : t.call (.thread (some p)) = .idle := by
    rw [h.call]
    exact place_producer (by simp [hp])
  cases harmed : s.doorbellArmed with
  | true =>
    refine .after (.call (.thread (some p)) .ring)
      ({ t with doorbellArmed := false }.setCall (.thread (some p)) .write) ?_ (.stay ?_)
    · simp [Lifecycle.step, h.alive, State.mayCall, hidle, callStep, h.doorbellArmed, harmed]
    · exact h.called _ _ _ _ (place_setProducer s p .writing) rfl rfl rfl rfl rfl
        (h.io.same rfl rfl rfl rfl rfl .rfl)
  | false =>
    refine .after (.call (.thread (some p)) .ring)
      (t.ret (.thread (some p)) ⟨.ring, none, none⟩) ?_ (.stay ?_)
    · simp [Lifecycle.step, h.alive, State.mayCall, hidle, callStep, h.doorbellArmed, harmed]
    · exact h.called _ _ _ _ (place_setProducer s p .idle) (h.doorbellArmed.trans harmed) rfl rfl
        rfl rfl (h.io.same rfl rfl rfl rfl rfl .rfl)

/-- The write ends the call of `ring()`. -/
theorem write (h : Represents s t) {p : ι} (hp : s.producer p = .writing) (counter : Nat) :
    Follows maxPriority t { s.setProducer p .idle with counter := counter } := by
  have hpc : t.call (.thread (some p)) = .write := by
    rw [h.call]
    simp [State.place, hp]
  refine .after (.advance (.thread (some p)) (.ok 0))
    (t.ret (.thread (some p)) ⟨.ring, none, none⟩) ?_ (.stay ?_)
  · simp [Lifecycle.step, h.alive, advance, hpc]
  · exact h.called _ _ _ _ (place_setProducer s p .idle) h.doorbellArmed rfl rfl rfl rfl
      (h.io.same rfl rfl rfl rfl rfl .rfl)

/-! ### The executor's thread and the kernel -/

omit [DecidableEq ι] in
/-- A step that is no part of a call. -/
theorem moved (h : Represents s t) (io : IoContext (Handler Unit)) {armed : Bool}
    {executor : Option ExecutorPc} (hplace : s'.place = s.place) (hstop : s'.stop = s.stop)
    (hwork : s'.work = s.work) (hstopping : s'.isStopping = s.isStopping)
    (harmed : armed = s'.doorbellArmed) (hexecutor : executor = some s'.executor.outer)
    (hio : Holds s' io) :
    Represents s' { t with io := io, doorbellArmed := armed, executor := executor } where
  alive := h.alive
  doorbellFd := h.doorbellFd
  doorbellArmed := harmed
  isStopping := h.isStopping.trans hstopping.symm
  executor := hexecutor
  call := h.call.trans hplace.symm
  io := hio
  thread := by
    rw [hstop]
    exact h.thread
  guard := by
    rw [hwork, hstop]
    exact h.guard

/-- The thread that has taken no handler takes `h'`. -/
theorem take (h : Represents s t) (hpc : s.executor = .polling) (h' : Handler Unit)
    (hready : 0 < s.readyCount h')
    (hnext : ∀ io, t.io.runOne h' = some io → Represents s' (enter { t with io := io } h')) :
    Follows maxPriority t s' := by
  obtain ⟨io, hrun⟩ := h.io.canTake hpc hready
  have hpolling : t.executor = some .polling := by
    rw [h.executor, hpc]
    rfl
  refine .after (.runOne h') _ ?_ (.stay (hnext io hrun))
  simp [Lifecycle.step, h.alive, hpolling, hrun]

/-- The thread goes on inside the handler it has taken. -/
theorem goOn (h : Represents s t) (t' : Lifecycle.State (Option ι) Unit)
    (he : Lifecycle.executorStep t = some t') (hR : Represents s' t') :
    Follows maxPriority t s' := by
  refine .after .executor t' ?_ (.stay hR)
  simp [Lifecycle.step, h.alive, he]

/-- The wait has read the eventfd, and its handler becomes ready. -/
theorem read (h : Represents s t) (hwaiting : 0 < s.waiting) (counter : Nat) :
    Follows maxPriority t
      { s with waiting := s.waiting - 1, ready := s.ready + 1, counter := counter } := by
  have hpending : Handler.doorbell none ∈ t.io.pending := by
    rw [h.io.pending]
    exact List.mem_replicate.mpr ⟨by omega, rfl⟩
  refine .after (.read none)
    ({ t with io := t.io.complete (.doorbell none) (.doorbell none) }) ?_ (.stay ?_)
  · simp [Lifecycle.step, h.alive, hpending]
  · exact h.moved _ rfl rfl rfl rfl h.doorbellArmed h.executor
      ((h.io.read hwaiting).same rfl rfl rfl rfl rfl .rfl)

/-- The thread takes the handler of a wait that has been rung. -/
theorem deliverReady (h : Represents s t) (hpc : s.executor = .polling) (hready : 0 < s.ready) :
    Follows maxPriority t { s with ready := s.ready - 1, executor := .completed } := by
  refine h.take hpc (.doorbell none) hready fun io hrun => ?_
  refine h.moved _ rfl rfl rfl rfl h.doorbellArmed rfl (h.io.take hrun ?_ rfl rfl ?_)
  · simp [State.IsBetween]
  · exact forall_handler rfl rfl rfl rfl fun _ => rfl

/-- The thread takes the handler of a wait that was cancelled. -/
theorem deliverAborted (h : Represents s t) (hpc : s.executor = .polling)
    (haborted : 0 < s.aborted) :
    Follows maxPriority t { s with aborted := s.aborted - 1, executor := .failed } := by
  refine h.take hpc (.doorbell (some .operationAborted)) haborted fun io hrun => ?_
  refine h.moved _ rfl rfl rfl rfl h.doorbellArmed rfl (h.io.take hrun ?_ rfl rfl ?_)
  · simp [State.IsBetween]
  · exact forall_handler rfl rfl rfl rfl fun _ => rfl

/-- The thread takes the cancellation that `stop()` has posted. -/
theorem runCancel (h : Represents s t) (hpc : s.executor = .polling)
    (hposted : 0 < s.cancelPosted) :
    Follows maxPriority t { s with
      cancelPosted := s.cancelPosted - 1, doorbellArmed := false, executor := .cancelling } := by
  refine h.take hpc .cancelDoorbell hposted fun io hrun => ?_
  refine h.moved _ rfl rfl rfl rfl rfl rfl (h.io.take hrun ?_ rfl rfl ?_)
  · simp [State.IsBetween]
  · exact forall_handler rfl rfl rfl rfl fun _ => rfl

/-- A step inside `handle_doorbell()` that starts and ends nothing. -/
theorem inside (h : Represents s t) (pc' : ExecutorPc) (armed : Bool) (counter : Nat)
    {pc : ExecutorPc} (hpc : s.executor = pc) (hfrom : pc ≠ .polling ∧ pc ≠ .exited)
    (hto : pc' ≠ .polling ∧ pc' ≠ .exited)
    (he : Lifecycle.executorStep t =
      some { t with doorbellArmed := armed, executor := some pc'.outer }) :
    Follows maxPriority t
      { s with doorbellArmed := armed, counter := counter, executor := pc' } := by
  refine h.goOn _ he (h.moved t.io rfl rfl rfl rfl rfl rfl
    (h.io.same rfl rfl rfl rfl rfl ?_))
  subst hpc
  exact iff_of_false (fun hbetween => hbetween.elim hto.1 hto.2) fun hbetween =>
    hbetween.elim hfrom.1 hfrom.2

omit [DecidableEq ι] in
/-- The thread goes on inside the handler, which does nothing the life cycle knows of. -/
theorem inHandler (h : Represents s t) {sawEmpty : Bool} (hpc : s.executor = .handler sawEmpty)
    (sawEmpty' : Bool) (queue : Nat) :
    Represents { s with queue := queue, executor := .handler sawEmpty' } t := by
  have hexecutor : t.executor = some (.handler false) := by
    rw [h.executor, hpc]
    rfl
  refine h.moved t.io rfl rfl rfl rfl h.doorbellArmed hexecutor
    (h.io.same rfl rfl rfl rfl rfl ?_)
  simp [State.IsBetween, hpc]

/-- A doorbell handler that reports an error, or comes after `stop()`, returns to the
loop. -/
theorem ignored (h : Represents s t) (hpc : s.executor = .failed ∨ s.executor = .stopping) :
    Follows maxPriority t { s with doorbellArmed := false, executor := .polling } := by
  refine h.goOn ({ t with doorbellArmed := false }.finish) ?_ ?_
  · rcases hpc with hpc | hpc <;> simp [Lifecycle.executorStep, h.executor, hpc, ExecutorPc.outer]
  · refine h.moved _ rfl rfl rfl rfl rfl rfl ((h.io.finish ?_).same rfl rfl rfl rfl rfl .rfl)
    rcases hpc with hpc | hpc <;> simp [State.IsBetween, hpc]

/-- `handle_doorbell()` reads `is_stopping` before anything else. -/
theorem completed (h : Represents s t) (hpc : s.executor = .completed) :
    Follows maxPriority t { s with executor := if s.isStopping then .stopping else .arming } := by
  refine h.inside (if s.isStopping then .stopping else .arming) s.doorbellArmed s.counter hpc
    (by decide) ?_ ?_
  · cases s.isStopping <;> decide
  · cases hstopping : s.isStopping <;>
      simp [Lifecycle.executorStep, h.executor, hpc, ExecutorPc.outer, h.isStopping, hstopping,
        ← h.doorbellArmed]

theorem arming (h : Represents s t) (hpc : s.executor = .arming) :
    Follows maxPriority t { s with doorbellArmed := true, executor := .handler false } := by
  refine h.inside (.handler false) true s.counter hpc (by decide) (by decide) ?_
  simp [Lifecycle.executorStep, h.executor, hpc, ExecutorPc.outer]

theorem disarming (h : Represents s t) (hpc : s.executor = .disarming) :
    Follows maxPriority t { s with doorbellArmed := false, executor := .rewriting } := by
  refine h.inside .rewriting false s.counter hpc (by decide) (by decide) ?_
  simp [Lifecycle.executorStep, h.executor, hpc, ExecutorPc.outer]

theorem rewriting (h : Represents s t) (hpc : s.executor = .rewriting) (counter : Nat) :
    Follows maxPriority t { s with counter := counter, executor := .checking } := by
  refine h.inside .checking s.doorbellArmed counter hpc (by decide) (by decide) ?_
  simp [Lifecycle.executorStep, h.executor, hpc, ExecutorPc.outer, ← h.doorbellArmed]

/-- Before the next wait `is_stopping` is read again. -/
theorem checking (h : Represents s t) (hpc : s.executor = .checking) :
    Follows maxPriority t
      { s with executor := if s.isStopping then .polling else .restarting } := by
  by_cases hstopping : s.isStopping = true
  · rw [if_pos hstopping]
    refine h.goOn t.finish ?_ ?_
    · simp [Lifecycle.executorStep, h.executor, hpc, ExecutorPc.outer, h.isStopping, hstopping]
    · refine h.moved _ rfl rfl rfl rfl h.doorbellArmed rfl (h.io.finish ?_)
      simp [State.IsBetween, hpc]
  · rw [if_neg hstopping]
    refine h.inside .restarting s.doorbellArmed s.counter hpc (by decide) (by decide) ?_
    simp [Lifecycle.executorStep, h.executor, hpc, ExecutorPc.outer, h.isStopping, hstopping,
      ← h.doorbellArmed]

/-- `handle_doorbell()` starts the next wait and returns to the loop. -/
theorem restarting (h : Represents s t) (hpc : s.executor = .restarting) :
    Follows maxPriority t { s with waiting := s.waiting + 1, executor := .polling } := by
  have hinside : ¬ s.IsBetween := by simp [State.IsBetween, hpc]
  refine h.goOn ({ t with io := t.io.initiate (.doorbell none) }.finish) ?_ ?_
  · simp [Lifecycle.executorStep, h.executor, hpc, ExecutorPc.outer]
  · exact h.moved _ rfl rfl rfl rfl h.doorbellArmed rfl ((h.io.initiate hinside).finish hinside)

/-- The cancellation aborts the wait, if there is one, and returns to the loop. -/
theorem cancelling (h : Represents s t) (hpc : s.executor = .cancelling) :
    Follows maxPriority t
      { s with waiting := 0, aborted := s.aborted + s.waiting, executor := .polling } := by
  have hinside : ¬ s.IsBetween := by simp [State.IsBetween, hpc]
  refine h.goOn ({ t with
    io := t.io.cancel Handler.isDoorbell fun _ => .doorbell (some .operationAborted) }.finish) ?_ ?_
  · simp [Lifecycle.executorStep, h.executor, hpc, ExecutorPc.outer]
  · exact h.moved _ rfl rfl rfl rfl h.doorbellArmed rfl ((h.io.cancel hinside).finish hinside)

/-- The user's handler says whether work remains. -/
theorem handlerReturn (h : Represents s t) {sawEmpty : Bool}
    (hpc : s.executor = .handler sawEmpty) (houtside : s.isInsideStop = false)
    (workRemains : Bool) :
    Follows maxPriority t { s with executor := if workRemains then .disarming else .checking } := by
  have hexecutor : t.executor = some (.handler false) := by
    rw [h.executor, hpc]
    rfl
  have hidle : t.call .executor = .idle := by
    rw [h.call]
    exact place_executor houtside
  refine .after (.handlerReturn workRemains)
    ({ t with executor := some (if workRemains then .disarming else .checking) }) ?_
    (.stay ?_)
  · simp [Lifecycle.step, h.alive, hexecutor, hidle]
  · refine h.moved t.io rfl rfl rfl rfl h.doorbellArmed ?_
      (h.io.same rfl rfl rfl rfl rfl ?_)
    · cases workRemains <;> rfl
    · cases workRemains <;> simp [State.IsBetween, hpc]

/-- The callback returns to the loop. -/
theorem callbackReturn (h : Represents s t) (hpc : s.executor = .callback)
    (houtside : s.isInsideStop = false) :
    Follows maxPriority t { s with executor := .polling } := by
  have hexecutor : t.executor = some .callback := by
    rw [h.executor, hpc]
    rfl
  have hidle : t.call .executor = .idle := by
    rw [h.call]
    exact place_executor houtside
  refine .after .callbackReturn t.finish ?_ (.stay ?_)
  · simp [Lifecycle.step, h.alive, hexecutor, hidle]
  · refine h.moved _ rfl rfl rfl rfl h.doorbellArmed rfl (h.io.finish ?_)
    simp [State.IsBetween, hpc]

/-- The loop ends where the context has run out of work. -/
theorem exit (h : Represents s t) (hpc : s.executor = .polling) (hnone : s.outOfWork) :
    Follows maxPriority t { s with executor := .exited } := by
  have hexecutor : t.executor = some .polling := by
    rw [h.executor, hpc]
    rfl
  have hstopped : t.io.stopped = true := h.io.stopped.mpr ⟨hnone, .inl hpc⟩
  refine .after .exit ({ t with executor := some .exited }) ?_ (.stay ?_)
  · simp [Lifecycle.step, h.alive, hexecutor, hstopped]
  · refine h.moved t.io rfl rfl rfl rfl h.doorbellArmed rfl
      (h.io.same rfl rfl rfl rfl rfl ?_)
    simp [State.IsBetween, hpc]

/-! ### `stop()` -/

omit [DecidableEq ι] in
theorem work_of_ne (h : Represents s t) (hjoining : s.stop ≠ .joining)
    (hreturned : s.stop ≠ .returned) : s.work = true := by
  rw [← Bool.not_eq_false]
  exact fun hfalse => (h.guard hfalse).elim hjoining hreturned

/-- `stop()` is called; the thread is joinable and there is a doorbell to cancel. -/
theorem callStop (h : Represents s t) (hstop : s.stop = .notCalled) (caller : Executor.Caller)
    (hmay : t.mayCall caller.thread = true) :
    Follows maxPriority t { s with isStopping := true, stop := .posting caller } := by
  refine .after (.call caller.thread (.stop false))
    ({ t with isStopping := true }.setCall caller.thread (.joinable graceful)) ?_ ?_
  · simp [Lifecycle.step, h.alive, hmay, callStep, graceful]
  refine .after (.advance caller.thread (.ok 0))
    (({ t with isStopping := true }.setCall caller.thread (.joinable graceful)).setCall
      caller.thread (.postCancel graceful)) ?_ (.stay ?_)
  · simp [Lifecycle.step, h.alive, advance, State.setCall, Lifecycle.stopStep, h.thread hstop,
      h.doorbellFd]
  · exact {
      alive := h.alive
      doorbellFd := h.doorbellFd
      doorbellArmed := h.doorbellArmed
      isStopping := rfl
      executor := h.executor
      call := by
        show Function.update (Function.update t.call _ _) _ _ = _
        rw [Function.update_idem, h.call, place_call hstop]
      io := h.io.same rfl rfl rfl rfl rfl .rfl
      thread := fun hcalled => by cases hcalled
      guard := fun hwork => by
        rw [h.work_of_ne (by simp [hstop]) (by simp [hstop])] at hwork
        cases hwork }

/-- Another thread calls `stop()`. -/
theorem callExternal (h : Represents s t) (hstop : s.stop = .notCalled) :
    Follows maxPriority t { s with isStopping := true, stop := .posting .external } := by
  refine h.callStop hstop .external ?_
  have hidle : t.call (.thread none) = .idle := by
    rw [h.call]
    exact place_notCalled hstop .external
  simp [State.mayCall, Caller.thread, hidle]

/-- The user's doorbell handler calls `stop()`. -/
theorem callHandler (h : Represents s t) (hstop : s.stop = .notCalled) {sawEmpty : Bool}
    (hpc : s.executor = .handler sawEmpty) :
    Follows maxPriority t { s with isStopping := true, stop := .posting .handler } := by
  refine h.callStop hstop .handler ?_
  have hidle : t.call .executor = .idle := by
    rw [h.call]
    exact place_notCalled hstop .handler
  simp [State.mayCall, Caller.thread, hidle, h.executor, hpc, ExecutorPc.outer]

/-- The callback that calls `stop()` is posted and taken first. -/
theorem callCallback (h : Represents s t) (hstop : s.stop = .notCalled)
    (hpc : s.executor = .polling) :
    Follows maxPriority t
      { s with isStopping := true, stop := .posting .callback, executor := .callback } := by
  have hwork := h.work_of_ne (by simp [hstop]) (by simp [hstop])
  have hidle : ∀ caller : Executor.Caller, t.call caller.thread = .idle := by
    intro caller
    rw [h.call]
    exact place_notCalled hstop caller
  have hpolling : t.executor = some .polling := by
    rw [h.executor, hpc]
    rfl
  obtain ⟨io, hrun, hio⟩ := h.io.runPosted hpc hwork
  refine .after (.post (.thread none) ())
    ({ t with io := t.io.post (.callback ()) }) ?_ ?_
  · have hnone := hidle .external
    simp only [Caller.thread] at hnone
    simp [Lifecycle.step, h.alive, State.mayCall, hnone]
  refine .after (.runOne (.callback ()))
    ({ t with io := io, executor := some .callback }) ?_ ?_
  · simp [Lifecycle.step, h.alive, hpolling, hrun, enter]
  have hcallback : Represents { s with executor := .callback }
      { t with io := io, executor := some .callback } :=
    h.moved _ rfl rfl rfl rfl h.doorbellArmed rfl hio
  refine hcallback.callStop hstop .callback ?_
  have hinside := hidle .callback
  simp only [Caller.thread] at hinside
  simp [State.mayCall, Caller.thread, hinside]

/-- The cancellation is posted. -/
theorem posting (h : Represents s t) {caller : Executor.Caller} (hstop : s.stop = .posting caller) :
    Follows maxPriority t
      { s with cancelPosted := s.cancelPosted + 1, stop := .resetting caller } := by
  have hpc : t.call caller.thread = .postCancel graceful := by
    rw [h.call]
    exact place_posting hstop
  have hwork := h.work_of_ne (by simp [hstop]) (by simp [hstop])
  refine .after (.advance caller.thread (.ok 0))
    ({ t with io := t.io.post .cancelDoorbell }.setCall caller.thread (.resetWork graceful))
    ?_ (.stay ?_)
  · simp [Lifecycle.step, h.alive, advance, hpc, Lifecycle.stopStep]
  · exact {
      alive := h.alive
      doorbellFd := h.doorbellFd
      doorbellArmed := h.doorbellArmed
      isStopping := h.isStopping
      executor := h.executor
      call := by
        show Function.update t.call _ _ = _
        rw [h.call, place_post hstop]
      io := h.io.post hwork .cancelDoorbell rfl rfl .rfl
        (forall_handler rfl rfl rfl rfl fun _ => rfl)
      thread := fun hcalled => by cases hcalled
      guard := fun hfalse => by
        rw [hwork] at hfalse
        cases hfalse }

/-- The work guard is gone; the executor's own thread does not join. -/
theorem released (h : Represents s t) {caller : Executor.Caller}
    (hstop : s.stop = .resetting caller)
    (returned : List (Lifecycle.Caller (Option ι) × Returned)) :
    Represents
      { s with work := false, stop := if caller = .external then .joining else .returned }
      { t with
        io := t.io.resetWork
        call := Function.update t.call caller.thread
          (if caller = .external then .join graceful else .idle)
        returned := returned } where
  alive := h.alive
  doorbellFd := h.doorbellFd
  doorbellArmed := h.doorbellArmed
  isStopping := h.isStopping
  executor := h.executor
  call := by rw [h.call, place_reset hstop]
  io := (h.io.resetWork (h.work_of_ne (by simp [hstop]) (by simp [hstop]))).same
    rfl rfl rfl rfl rfl .rfl
  thread := fun hcalled => by cases caller <;> cases hcalled
  guard := fun _ => by cases caller <;> simp

/-- The work guard is released, and the executor's own thread returns from `stop()`. -/
theorem resetting (h : Represents s t) {caller : Executor.Caller}
    (hstop : s.stop = .resetting caller) :
    Follows maxPriority t
      { s with work := false, stop := if caller = .external then .joining else .returned } := by
  have hpc : t.call caller.thread = .resetWork graceful := by
    rw [h.call]
    exact place_resetting hstop
  refine .after (.advance caller.thread (.ok 0))
    ({ t with io := t.io.resetWork }.setCall caller.thread (.join graceful)) ?_ ?_
  · simp [Lifecycle.step, h.alive, advance, hpc, Lifecycle.stopStep, graceful]
  by_cases hexternal : caller = .external
  · have hreleased := h.released hstop t.returned
    simp only [if_pos hexternal] at hreleased ⊢
    exact .stay hreleased
  · have hreleased :=
      h.released hstop (t.returned ++ [(.executor, ⟨.stop false, none, none⟩)])
    have hthread : caller.thread (ι := ι) = .executor := by cases caller <;> trivial
    refine .after (.advance caller.thread (.ok 0))
      ({ t with
        io := t.io.resetWork
        call := Function.update t.call caller.thread
          (if caller = .external then .join graceful else .idle)
        returned := t.returned ++ [(.executor, ⟨.stop false, none, none⟩)] }) ?_ (.stay hreleased)
    rw [hthread, if_neg hexternal]
    simp [Lifecycle.step, h.alive, advance, State.setCall, State.ret, Lifecycle.stopStep,
      stopReturn, graceful]

/-- The thread has ended, and the caller of `stop()` joins it. -/
theorem joining (h : Represents s t) (hstop : s.stop = .joining) (hpc : s.executor = .exited) :
    Follows maxPriority t { s with stop := .returned } := by
  have hjoin : t.call (.thread none) = .join graceful := by
    rw [h.call]
    exact place_joining hstop
  have hexited : t.executor = some .exited := by
    rw [h.executor, hpc]
    rfl
  refine .after (.advance (.thread none) (.ok 0))
    ({ t with thread := .joined }.ret (.thread none) ⟨.stop false, none, none⟩) ?_ (.stay ?_)
  · simp [Lifecycle.step, h.alive, advance, hjoin, Lifecycle.stopStep, hexited, stopReturn,
      graceful]
  · exact {
      alive := h.alive
      doorbellFd := h.doorbellFd
      doorbellArmed := h.doorbellArmed
      isStopping := h.isStopping
      executor := h.executor
      call := by
        show Function.update t.call _ _ = _
        rw [h.call, place_join hstop]
      io := h.io.same rfl rfl rfl rfl rfl .rfl
      thread := fun hcalled => by cases hcalled
      guard := fun _ => .inr rfl }

end Represents

/-! ## The refinement -/

/-- One step of the doorbell's model is a run of the life cycle's. -/
theorem Represents.step (h : Represents s t) {e : Executor.Event ι}
    (he : Executor.step s e = some s') : Follows maxPriority t s' := by
  cases step_spec he with
  | push p hp => exact .stay (h.enterRing hp (s.queue + 1))
  | ring p hp => exact .stay (h.enterRing hp s.queue)
  | exchange p hp => exact h.exchange hp
  | write p hp => exact h.write hp _
  | read hwait _ => exact h.read hwait 0
  | deliverReady hpc hready => exact h.deliverReady hpc hready
  | deliverAborted hpc haborted => exact h.deliverAborted hpc haborted
  | ignored hpc => exact h.ignored hpc
  | completed hpc => exact h.completed hpc
  | arming hpc => exact h.arming hpc
  | disarming hpc => exact h.disarming hpc
  | rewriting hpc => exact h.rewriting hpc _
  | checking hpc => exact h.checking hpc
  | restarting hpc => exact h.restarting hpc
  | cancelling hpc => exact h.cancelling hpc
  | drain sawEmpty hpc _ _ => exact .stay (h.inHandler hpc sawEmpty _)
  | seeEmpty sawEmpty hpc _ _ => exact .stay (h.inHandler hpc true s.queue)
  | handlerReturn sawEmpty workRemains hpc houtside =>
    exact h.handlerReturn hpc houtside workRemains
  | callExternal hstop => exact h.callExternal hstop
  | callCallback hstop hpc => exact h.callCallback hstop hpc
  | callHandler hstop sawEmpty hpc => exact h.callHandler hstop hpc
  | posting caller hstop => exact h.posting hstop
  | resetting caller hstop => exact h.resetting hstop
  | joining hstop hpc => exact h.joining hstop hpc
  | callbackReturn hpc houtside => exact h.callbackReturn hpc houtside
  | runCancel hpc hposted => exact h.runCancel hpc hposted
  | exit hpc hnone => exact h.exit hpc hnone

/-- What a `start()` that succeeds leaves of a constructed executor. -/
def started (ι : Type) : Lifecycle.State (Option ι) Unit where
  io := (IoContext.create (Handler Unit)).initiate (.doorbell none)
  hasDoorbellHandler := true
  doorbellFd := 0
  doorbellArmed := true
  isStartCalled := true
  isStarted := true
  isStopping := false
  thread := .joinable
  threadHandle := true
  executor := some .polling
  call := fun _ => .idle
  policy := .schedOther
  priority := 0
  cpu := none
  returned := [(.thread none, ⟨.start, none, none⟩)]
  dispatched := []
  destroyed := false
  terminated := false

omit [DecidableEq ι] in
/-- Once `setup_doorbell()` is done and the thread runs, the two models agree. -/
theorem represents_started {s₀ : State ι} (h : Constructed s₀) :
    Represents (setupDoorbell s₀) (started ι) where
  alive := ⟨rfl, rfl⟩
  doorbellFd := Int.le_refl 0
  doorbellArmed := rfl
  isStopping := h.stopping.1.symm
  executor := by
    show some ExecutorPc.polling = some s₀.executor.outer
    rw [h.executor]
    rfl
  call := by
    funext c
    show CallPc.idle = s₀.place c
    cases c with
    | executor => simp [State.place, h.stopping.2.1]
    | thread t =>
      cases t with
      | none => simp [State.place, h.stopping.2.1]
      | some p => exact (place_producer (h.producer p)).symm
  io := {
    pending := by
      show [Handler.doorbell none] = List.replicate (s₀.waiting + 1) _
      rw [h.waits.1]
      rfl
    ready := forall_handler rfl h.stopping.2.2.symm h.waits.2.1.symm h.waits.2.2.symm fun _ => rfl
    work := h.work.symm
    running := iff_of_true rfl (.inl h.executor)
    stopped := iff_of_false Bool.false_ne_true fun hout => Nat.succ_ne_zero _ hout.1.2.1 }
  thread := fun _ => rfl
  guard := fun hfalse => by
    have hwork : s₀.work = false := hfalse
    rw [h.work] at hwork
    cases hwork

/-- `start()` reaches it: the load, the exchange, the eventfd, the assignment, the store,
the first wait, the thread, its handle and `is_started`. -/
theorem path_started : Path (Lifecycle.system (Option ι) Unit maxPriority) anyStep
    (construct (Option ι) Unit true) (started ι) := by
  refine Path.of_run (.call (.thread none) .start ::
    List.replicate 8 (.advance (.thread none) (.ok 0))) ?_
  simp [List.replicate, Transition.run, anyStep, Lifecycle.system, Lifecycle.step, construct,
    State.mayCall, callStep, advance, startStep, State.setCall, State.ret, started]

/-- **The refinement.** For every reachable state of the doorbell's executor there is a
reachable state of the executor's life cycle in which `doorbell_armed`, `is_stopping` and
the work guard are the same, the executor's thread and every call are at the same place,
the same handlers are ready and the same reads of the eventfd are outstanding. -/
theorem doorbell_refines_lifecycle (maxPriority : Int) {s : State ι}
    (hr : Reachable (Executor.system ι) anyStep s) :
    ∃ t, Reachable (Lifecycle.system (Option ι) Unit maxPriority) anyStep t ∧ Represents s t := by
  refine hr.refine ?_ fun s e s' t h _ he => h.step he
  rintro s ⟨s₀, hconstructed, rfl⟩
  exact ⟨started ι, ⟨_, ⟨true, rfl⟩, path_started⟩, represents_started hconstructed⟩

/-- The doorbell handler stops the executor, and the life cycle goes along. -/
theorem doorbell_refines_lifecycle_stopFromHandler :
    ∃ s t, Transition.run (Executor.system (Fin 2)) anyStep (setupDoorbell constructed)
        stopFromHandler = some s ∧
      Reachable (Lifecycle.system (Option (Fin 2)) Unit 99) anyStep t ∧ Represents s t := by
  have hsome : (Transition.run (Executor.system (Fin 2)) anyStep (setupDoorbell constructed)
      stopFromHandler).isSome = true := by decide
  obtain ⟨s, hrun⟩ := Option.isSome_iff_exists.mp hsome
  have hinit : (Executor.system (Fin 2)).init (setupDoorbell constructed) :=
    ⟨constructed, constructed_spec, rfl⟩
  obtain ⟨t, hr, hR⟩ :=
    doorbell_refines_lifecycle 99 ⟨_, hinit, Path.of_run stopFromHandler hrun⟩
  exact ⟨s, t, hrun, hr, hR⟩

end CppComponents.Executor
