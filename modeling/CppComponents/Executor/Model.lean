import CppComponents.Transition
import Mathlib.Algebra.Order.Ring.Nat

/-!
# The executor and its doorbell

`Executor` runs an `io_context` on one thread. An executor with a doorbell
handler also lets other threads wake that thread through an eventfd:

- a producer pushes to a queue of its own and calls `ring()`, which exchanges
  `doorbell_armed` with `false` and writes the eventfd when it read `true`;
- the executor keeps one read of the eventfd outstanding. When it completes,
  `handle_doorbell()` arms the doorbell again, runs the handler, which drains
  the queue, and starts the next read. A handler that returns `true` has left
  work behind, so the executor disarms the doorbell and writes the eventfd
  itself.

The model is a transition system whose steps are the atomic steps of the
threads: each load, store or exchange of an atomic, each eventfd read or write
and each start of a wait is one step, and any thread may move next. Atomics
are sequentially consistent. `ι` names the producer threads; there may be any
number of them. The caller's queue is represented by its length, and the
handler by the steps it may take: remove an item, find the queue empty, call
`stop()`, return.

`stop()` is the graceful one (`is_force_stop` is `false`), called by another
thread, from a posted callback or from inside the handler.
-/

namespace CppComponents.Executor

open CppComponents.Transition

/-- Where a producer thread is. -/
inductive ProducerPc where
  /-- not inside `ring()`, and nothing pushed since the last one -/
  | idle
  /-- before the exchange of `ring()` -/
  | ringing
  /-- the exchange read `true`: before `write_doorbell()` -/
  | writing
  deriving DecidableEq, Repr

/-- Where the executor thread is. -/
inductive ExecutorPc where
  /-- inside `io_context.run()`, between two handlers -/
  | polling
  /-- `handle_doorbell()` with an error: before the store of `false` -/
  | failed
  /-- `handle_doorbell()` with success: before the first load of `is_stopping` -/
  | completed
  /-- `is_stopping` was set: before the store of `false` -/
  | stopping
  /-- `run_doorbell_handler()`: before the arming exchange -/
  | arming
  /-- inside the doorbell handler; `sawEmpty` says whether the handler has
  found the queue empty since the arming exchange -/
  | handler (sawEmpty : Bool)
  /-- the handler returned `true`: before the store of `false` -/
  | disarming
  /-- before the `write_doorbell()` of `run_doorbell_handler()` -/
  | rewriting
  /-- after `run_doorbell_handler()`: before the second load of `is_stopping` -/
  | checking
  /-- before `start_doorbell_wait()` -/
  | restarting
  /-- inside a posted callback that calls `stop()` -/
  | callback
  /-- inside the callback posted by `stop()`, before `doorbell.cancel()` -/
  | cancelling
  /-- `io_context.run()` has returned -/
  | exited
  deriving DecidableEq, Repr

/-- Who calls `stop()`. -/
inductive Caller where
  | external
  | callback
  | handler
  deriving DecidableEq, Repr

/-- Where the call of `stop()` is. -/
inductive StopPc where
  | notCalled
  /-- `is_stopping` is stored: before the post of the cancel callback -/
  | posting (caller : Caller)
  /-- before `work.reset()` -/
  | resetting (caller : Caller)
  /-- before `thread.join()` -/
  | joining
  | returned
  deriving DecidableEq, Repr

/-- The state of an executor with a doorbell, of its eventfd and of the threads
that use it. The waits are the reads of the eventfd that were started and
whose completion handler has not run: `waiting` ones are outstanding,
`ready` ones have read the eventfd, `aborted` ones were cancelled. -/
structure State (ι : Type) where
  doorbellArmed : Bool
  isStopping : Bool
  /-- the eventfd counter -/
  counter : Nat
  waiting : Nat
  ready : Nat
  aborted : Nat
  /-- cancel callbacks posted and not run yet -/
  cancelPosted : Nat
  /-- `work`, which keeps `io_context.run()` from returning -/
  work : Bool
  executor : ExecutorPc
  stop : StopPc
  producer : ι → ProducerPc
  /-- length of the queue the handler drains -/
  queue : Nat

/-- An eventfd write fails when the counter would exceed this value. -/
def eventfdMax : Nat := 2 ^ 64 - 2

variable {ι : Type}

/-- `write_doorbell()`: adds one to the eventfd; a failure is ignored. -/
def writeDoorbell (s : State ι) : State ι :=
  if s.counter < eventfdMax then { s with counter := s.counter + 1 } else s

/-- `start_doorbell_wait()`. -/
def startDoorbellWait (s : State ι) : State ι :=
  { s with waiting := s.waiting + 1 }

/-- `setup_doorbell()`, when the eventfd can be created: the doorbell is armed
from the start, and the first wait is started before the thread exists. -/
def setupDoorbell (s : State ι) : State ι :=
  startDoorbellWait { s with doorbellArmed := true }

/-- `io_context.run()` returns when nothing is outstanding and `work` is gone. -/
def State.outOfWork (s : State ι) : Prop :=
  s.work = false ∧ s.waiting = 0 ∧ s.ready = 0 ∧ s.aborted = 0 ∧ s.cancelPosted = 0

instance (s : State ι) : Decidable s.outOfWork := inferInstanceAs (Decidable (_ ∧ _))

/-- Is the executor thread inside the `stop()` it called itself? -/
def State.isInsideStop (s : State ι) : Bool :=
  match s.stop with
  | .posting .external | .resetting .external => false
  | .posting _ | .resetting _ => true
  | _ => false

/-- The atomic steps. -/
inductive Event (ι : Type) where
  /-- producer `p` pushes an item and enters `ring()` -/
  | push (p : ι)
  /-- producer `p` enters `ring()` without a push -/
  | ring (p : ι)
  /-- the exchange of `ring()` -/
  | exchange (p : ι)
  /-- the `write_doorbell()` of `ring()` -/
  | write (p : ι)
  /-- an outstanding wait reads the eventfd -/
  | read
  /-- `io_context` calls the completion handler of a wait -/
  | deliverReady
  | deliverAborted
  /-- the next step of `handle_doorbell()` outside the handler -/
  | executor
  /-- the handler removes an item, finds the queue empty, returns -/
  | drain
  | seeEmpty
  | handlerReturn (workRemains : Bool)
  /-- `stop()` is called: the store of `is_stopping` -/
  | callStop (caller : Caller)
  /-- the next step of the running `stop()` -/
  | stop
  /-- the posted callback that called `stop()` returns -/
  | callbackReturn
  /-- `io_context` runs the callback posted by `stop()` -/
  | runCancel
  /-- `io_context.run()` returns -/
  | exit
  deriving DecidableEq

variable [DecidableEq ι]

/-- `State.setProducer s p pc`: producer `p` moves to `pc`. -/
def State.setProducer (s : State ι) (p : ι) (pc : ProducerPc) : State ι :=
  { s with producer := Function.update s.producer p pc }

/-- The steps of a thread that calls `push` and `ring()`. -/
def producerStep (s : State ι) (p : ι) : Event ι → Option (State ι)
  | .push _ =>
    if s.producer p = .idle then
      some { s.setProducer p .ringing with queue := s.queue + 1 }
    else none
  | .ring _ => if s.producer p = .idle then some (s.setProducer p .ringing) else none
  | .exchange _ =>
    if s.producer p = .ringing then
      -- ring(): if (doorbell_armed.exchange(false)) write_doorbell();
      some { s.setProducer p (if s.doorbellArmed then .writing else .idle) with
        doorbellArmed := false }
    else none
  | .write _ =>
    if s.producer p = .writing then some (writeDoorbell (s.setProducer p .idle)) else none
  | _ => none

/-- The steps of `handle_doorbell()` and `run_doorbell_handler()` around the
handler, and the second half of the callback posted by `stop()`. -/
def executorStep (s : State ι) : Option (State ι) :=
  match s.executor with
  | .failed => some { s with doorbellArmed := false, executor := .polling }
  | .completed => some { s with executor := if s.isStopping then .stopping else .arming }
  | .stopping => some { s with doorbellArmed := false, executor := .polling }
  | .arming => some { s with doorbellArmed := true, executor := .handler false }
  | .disarming => some { s with doorbellArmed := false, executor := .rewriting }
  | .rewriting => some { writeDoorbell s with executor := .checking }
  | .checking => some { s with executor := if s.isStopping then .polling else .restarting }
  | .restarting => some { startDoorbellWait s with executor := .polling }
  | .cancelling =>
    -- doorbell.cancel(): outstanding waits complete with operation_aborted
    some { s with waiting := 0, aborted := s.aborted + s.waiting, executor := .polling }
  | _ => none

/-- What the doorbell handler may do. -/
def handlerStep (s : State ι) (e : Event ι) : Option (State ι) :=
  match s.executor, e with
  | .handler sawEmpty, .drain =>
    if s.isInsideStop = false ∧ 0 < s.queue then
      some { s with queue := s.queue - 1, executor := .handler sawEmpty }
    else none
  | .handler _, .seeEmpty =>
    if s.isInsideStop = false ∧ s.queue = 0 then
      some { s with executor := .handler true }
    else none
  | .handler _, .handlerReturn workRemains =>
    if s.isInsideStop = false then
      some { s with executor := if workRemains then .disarming else .checking }
    else none
  | _, _ => none

/-- The steps of `stop()`. A call from the executor thread does not join. -/
def stopStep (s : State ι) : Option (State ι) :=
  match s.stop with
  | .posting caller =>
    some { s with cancelPosted := s.cancelPosted + 1, stop := .resetting caller }
  | .resetting caller =>
    some { s with work := false, stop := if caller = .external then .joining else .returned }
  | .joining => if s.executor = .exited then some { s with stop := .returned } else none
  | _ => none

/-- `stop()` is called: it stores `is_stopping` first. -/
def callStop (s : State ι) (caller : Caller) : Option (State ι) :=
  if s.stop ≠ .notCalled then none
  else
    let stopped := { s with isStopping := true, stop := .posting caller }
    match caller, s.executor with
    | .external, _ => some stopped
    | .callback, .polling => some { stopped with executor := .callback }
    | .handler, .handler _ => some stopped
    | _, _ => none

/-- One atomic step of one of the threads, or of the kernel. -/
def step (s : State ι) (e : Event ι) : Option (State ι) :=
  match e with
  | .push p | .ring p | .exchange p | .write p => producerStep s p e
  | .read =>
    -- the read returns the counter and resets it
    if 0 < s.waiting ∧ 0 < s.counter then
      some { s with waiting := s.waiting - 1, ready := s.ready + 1, counter := 0 }
    else none
  | .deliverReady =>
    if s.executor = .polling ∧ 0 < s.ready then
      some { s with ready := s.ready - 1, executor := .completed }
    else none
  | .deliverAborted =>
    if s.executor = .polling ∧ 0 < s.aborted then
      some { s with aborted := s.aborted - 1, executor := .failed }
    else none
  | .executor => executorStep s
  | .drain | .seeEmpty | .handlerReturn _ => handlerStep s e
  | .callStop caller => callStop s caller
  | .stop => stopStep s
  | .callbackReturn =>
    if s.executor = .callback ∧ s.isInsideStop = false then
      some { s with executor := .polling }
    else none
  | .runCancel =>
    -- the posted callback first stores false, then cancels the wait
    if s.executor = .polling ∧ 0 < s.cancelPosted then
      some { s with
        cancelPosted := s.cancelPosted - 1, doorbellArmed := false, executor := .cancelling }
    else none
  | .exit =>
    if s.executor = .polling ∧ s.outOfWork then some { s with executor := .exited } else none

/-- An executor that was constructed and not started: nothing is armed or
outstanding. A producer may have pushed already, if it has yet to ring. -/
structure Constructed (s : State ι) : Prop where
  armed : s.doorbellArmed = false
  stopping : s.isStopping = false ∧ s.stop = .notCalled ∧ s.cancelPosted = 0
  counter : s.counter = 0
  waits : s.waiting = 0 ∧ s.ready = 0 ∧ s.aborted = 0
  work : s.work = true
  executor : s.executor = .polling
  producer : ∀ p, s.producer p ≠ .writing
  queue : 0 < s.queue → ∃ p, s.producer p = .ringing

/-- The executor once `start()` has returned. -/
def system (ι : Type) [DecidableEq ι] : System (State ι) (Event ι) where
  init s := ∃ s₀, Constructed s₀ ∧ s = setupDoorbell s₀
  step := step

/-! ## What a step can do -/

/-- One case for each thing a step can do. -/
inductive StepSpec (s : State ι) : Event ι → State ι → Prop where
  | push (p : ι) (hp : s.producer p = .idle) :
    StepSpec s (.push p) { s.setProducer p .ringing with queue := s.queue + 1 }
  | ring (p : ι) (hp : s.producer p = .idle) : StepSpec s (.ring p) (s.setProducer p .ringing)
  | exchange (p : ι) (hp : s.producer p = .ringing) :
    StepSpec s (.exchange p)
      { s.setProducer p (if s.doorbellArmed then .writing else .idle) with
        doorbellArmed := false }
  | write (p : ι) (hp : s.producer p = .writing) :
    StepSpec s (.write p) { s.setProducer p .idle with counter := (writeDoorbell s).counter }
  | read (hwait : 0 < s.waiting) (hcounter : 0 < s.counter) :
    StepSpec s .read { s with waiting := s.waiting - 1, ready := s.ready + 1, counter := 0 }
  | deliverReady (hpc : s.executor = .polling) (hready : 0 < s.ready) :
    StepSpec s .deliverReady { s with ready := s.ready - 1, executor := .completed }
  | deliverAborted (hpc : s.executor = .polling) (haborted : 0 < s.aborted) :
    StepSpec s .deliverAborted { s with aborted := s.aborted - 1, executor := .failed }
  | ignored (hpc : s.executor = .failed ∨ s.executor = .stopping) :
    StepSpec s .executor { s with doorbellArmed := false, executor := .polling }
  | completed (hpc : s.executor = .completed) :
    StepSpec s .executor { s with executor := if s.isStopping then .stopping else .arming }
  | arming (hpc : s.executor = .arming) :
    StepSpec s .executor { s with doorbellArmed := true, executor := .handler false }
  | disarming (hpc : s.executor = .disarming) :
    StepSpec s .executor { s with doorbellArmed := false, executor := .rewriting }
  | rewriting (hpc : s.executor = .rewriting) :
    StepSpec s .executor { s with counter := (writeDoorbell s).counter, executor := .checking }
  | checking (hpc : s.executor = .checking) :
    StepSpec s .executor { s with executor := if s.isStopping then .polling else .restarting }
  | restarting (hpc : s.executor = .restarting) :
    StepSpec s .executor { s with waiting := s.waiting + 1, executor := .polling }
  | cancelling (hpc : s.executor = .cancelling) :
    StepSpec s .executor
      { s with waiting := 0, aborted := s.aborted + s.waiting, executor := .polling }
  | drain (sawEmpty : Bool) (hpc : s.executor = .handler sawEmpty)
      (houtside : s.isInsideStop = false) (hqueue : 0 < s.queue) :
    StepSpec s .drain { s with queue := s.queue - 1, executor := .handler sawEmpty }
  | seeEmpty (sawEmpty : Bool) (hpc : s.executor = .handler sawEmpty)
      (houtside : s.isInsideStop = false) (hqueue : s.queue = 0) :
    StepSpec s .seeEmpty { s with executor := .handler true }
  | handlerReturn (sawEmpty workRemains : Bool) (hpc : s.executor = .handler sawEmpty)
      (houtside : s.isInsideStop = false) :
    StepSpec s (.handlerReturn workRemains)
      { s with executor := if workRemains then .disarming else .checking }
  | callExternal (hstop : s.stop = .notCalled) :
    StepSpec s (.callStop .external) { s with isStopping := true, stop := .posting .external }
  | callCallback (hstop : s.stop = .notCalled) (hpc : s.executor = .polling) :
    StepSpec s (.callStop .callback)
      { s with isStopping := true, stop := .posting .callback, executor := .callback }
  | callHandler (hstop : s.stop = .notCalled) (sawEmpty : Bool)
      (hpc : s.executor = .handler sawEmpty) :
    StepSpec s (.callStop .handler) { s with isStopping := true, stop := .posting .handler }
  | posting (caller : Caller) (hstop : s.stop = .posting caller) :
    StepSpec s .stop { s with cancelPosted := s.cancelPosted + 1, stop := .resetting caller }
  | resetting (caller : Caller) (hstop : s.stop = .resetting caller) :
    StepSpec s .stop
      { s with work := false, stop := if caller = .external then .joining else .returned }
  | joining (hstop : s.stop = .joining) (hpc : s.executor = .exited) :
    StepSpec s .stop { s with stop := .returned }
  | callbackReturn (hpc : s.executor = .callback) (houtside : s.isInsideStop = false) :
    StepSpec s .callbackReturn { s with executor := .polling }
  | runCancel (hpc : s.executor = .polling) (hposted : 0 < s.cancelPosted) :
    StepSpec s .runCancel { s with
      cancelPosted := s.cancelPosted - 1, doorbellArmed := false, executor := .cancelling }
  | exit (hpc : s.executor = .polling) (hnone : s.outOfWork) :
    StepSpec s .exit { s with executor := .exited }

omit [DecidableEq ι] in
theorem writeDoorbell_frame (s : State ι) :
    writeDoorbell s = { s with counter := (writeDoorbell s).counter } := by
  unfold writeDoorbell
  split <;> rfl

theorem writeDoorbell_setProducer (s : State ι) (p : ι) (pc : ProducerPc) :
    writeDoorbell (s.setProducer p pc) =
      { s.setProducer p pc with counter := (writeDoorbell s).counter } := by
  unfold writeDoorbell State.setProducer
  split <;> rfl

theorem producerStep_spec {s s' : State ι} {p : ι} {e : Event ι}
    (hthread : e = .push p ∨ e = .ring p ∨ e = .exchange p ∨ e = .write p)
    (he : producerStep s p e = some s') : StepSpec s e s' := by
  rcases hthread with rfl | rfl | rfl | rfl
  · obtain ⟨hp, ⟨⟩⟩ := Option.ite_none_right_eq_some.mp he
    exact .push p hp
  · obtain ⟨hp, ⟨⟩⟩ := Option.ite_none_right_eq_some.mp he
    exact .ring p hp
  · obtain ⟨hp, ⟨⟩⟩ := Option.ite_none_right_eq_some.mp he
    exact .exchange p hp
  · obtain ⟨hp, ⟨⟩⟩ := Option.ite_none_right_eq_some.mp he
    rw [writeDoorbell_setProducer]
    exact .write p hp

theorem executorStep_spec {s s' : State ι} (he : executorStep s = some s') :
    StepSpec s .executor s' := by
  unfold executorStep at he
  split at he
  case h_1 hpc => cases he; exact .ignored (.inl hpc)
  case h_2 hpc => cases he; exact .completed hpc
  case h_3 hpc => cases he; exact .ignored (.inr hpc)
  case h_4 hpc => cases he; exact .arming hpc
  case h_5 hpc => cases he; exact .disarming hpc
  case h_6 hpc =>
    cases he
    rw [writeDoorbell_frame]
    exact .rewriting hpc
  case h_7 hpc => cases he; exact .checking hpc
  case h_8 hpc => cases he; exact .restarting hpc
  case h_9 hpc => cases he; exact .cancelling hpc
  case h_10 => cases he

theorem handlerStep_spec {s s' : State ι} {e : Event ι} (he : handlerStep s e = some s') :
    StepSpec s e s' := by
  unfold handlerStep at he
  split at he
  case h_1 sawEmpty hpc =>
    obtain ⟨⟨houtside, hqueue⟩, ⟨⟩⟩ := Option.ite_none_right_eq_some.mp he
    exact .drain sawEmpty hpc houtside hqueue
  case h_2 sawEmpty hpc =>
    obtain ⟨⟨houtside, hqueue⟩, ⟨⟩⟩ := Option.ite_none_right_eq_some.mp he
    exact .seeEmpty sawEmpty hpc houtside hqueue
  case h_3 sawEmpty workRemains hpc =>
    obtain ⟨houtside, ⟨⟩⟩ := Option.ite_none_right_eq_some.mp he
    exact .handlerReturn sawEmpty workRemains hpc houtside
  case h_4 => cases he

theorem callStop_spec {s s' : State ι} {caller : Caller} (he : callStop s caller = some s') :
    StepSpec s (.callStop caller) s' := by
  obtain ⟨hcalled, hcaller⟩ := Option.ite_none_left_eq_some.mp he
  clear he
  have hstop : s.stop = .notCalled := Decidable.not_not.mp hcalled
  split at hcaller
  case h_1 => cases hcaller; exact .callExternal hstop
  case h_2 hpc => cases hcaller; exact .callCallback hstop hpc
  case h_3 sawEmpty hpc => cases hcaller; exact .callHandler hstop sawEmpty hpc
  case h_4 => cases hcaller

theorem stopStep_spec {s s' : State ι} (he : stopStep s = some s') : StepSpec s .stop s' := by
  unfold stopStep at he
  split at he
  case h_1 caller hstop => cases he; exact .posting caller hstop
  case h_2 caller hstop => cases he; exact .resetting caller hstop
  case h_3 hstop =>
    obtain ⟨hpc, ⟨⟩⟩ := Option.ite_none_right_eq_some.mp he
    exact .joining hstop hpc
  case h_4 => cases he

theorem step_spec {s s' : State ι} {e : Event ι} (he : step s e = some s') :
    StepSpec s e s' := by
  cases e with
  | push p => exact producerStep_spec (.inl rfl) he
  | ring p => exact producerStep_spec (.inr (.inl rfl)) he
  | exchange p => exact producerStep_spec (.inr (.inr (.inl rfl))) he
  | write p => exact producerStep_spec (.inr (.inr (.inr rfl))) he
  | executor => exact executorStep_spec he
  | drain | seeEmpty | handlerReturn _ => exact handlerStep_spec he
  | callStop caller => exact callStop_spec he
  | stop => exact stopStep_spec he
  | read =>
    obtain ⟨⟨hwait, hcounter⟩, ⟨⟩⟩ := Option.ite_none_right_eq_some.mp he
    exact .read hwait hcounter
  | deliverReady =>
    obtain ⟨⟨hpc, hready⟩, ⟨⟩⟩ := Option.ite_none_right_eq_some.mp he
    exact .deliverReady hpc hready
  | deliverAborted =>
    obtain ⟨⟨hpc, haborted⟩, ⟨⟩⟩ := Option.ite_none_right_eq_some.mp he
    exact .deliverAborted hpc haborted
  | callbackReturn =>
    obtain ⟨⟨hpc, houtside⟩, ⟨⟩⟩ := Option.ite_none_right_eq_some.mp he
    exact .callbackReturn hpc houtside
  | runCancel =>
    obtain ⟨⟨hpc, hposted⟩, ⟨⟩⟩ := Option.ite_none_right_eq_some.mp he
    exact .runCancel hpc hposted
  | exit =>
    obtain ⟨⟨hpc, hnone⟩, ⟨⟩⟩ := Option.ite_none_right_eq_some.mp he
    exact .exit hpc hnone

end CppComponents.Executor
