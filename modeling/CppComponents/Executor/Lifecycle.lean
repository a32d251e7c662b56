import CppComponents.IoContext
import CppComponents.ErrorCode
import CppComponents.Executor.Model

/-!
# The life of an executor

An executor is constructed, started, used by any number of threads, stopped and
destroyed. The model of the doorbell follows one started executor through one
graceful stop; this one follows the object from its constructor to its destructor,
with every call of the public interface: `start()`, `stop()`, the destructor,
`set_priority()`, `get_priority()`, `set_cpu_affinity()`, `ring()`, `post()` and
`dispatch()`, made by other threads or by a handler on the executor thread.

Each access to a member that threads share and each call into the system is one
step, and any thread may move next. What the system and the library answer
(whether an eventfd, a thread can be made, whether a pthread call fails) is part of
the event. The `io_context` is the event loop of `IoContext`: its handlers are the
callbacks (posted, or the handlers of operations that components have started on
the context), the callback `stop()` posts, and the completions of the doorbell's
read.

The eventfd is left to the model of the doorbell: here a read of it may complete
at any moment, and a write has no effect.
-/

namespace CppComponents.Executor.Lifecycle

open CppComponents.Transition

/-- A failing `std::error_code`: an `errno` value of the generic category, or what
`doorbell.assign` failed with. -/
inductive Error where
  | generic (errno : Nat)
  | boost (value : Nat)
  deriving DecidableEq, Repr

/-- `EINVAL` -/
def einval : Nat := 22

/-- `std::make_error_code(std::errc::invalid_argument)` -/
def invalidArgument : Error := .generic einval

/-- The scheduling policies the executor asks for. -/
inductive Policy where
  | schedOther
  | schedRr
  deriving DecidableEq, Repr

/-- The functions that control the thread. -/
inductive Control where
  | setPriority (priority : Int)
  | getPriority
  | setCpuAffinity (cpuId : Nat)
  deriving DecidableEq, Repr

/-- The functions of the public interface that take more than one step. -/
inductive Call where
  | start
  | stop (isForceStop : Bool)
  | destroy
  | control (op : Control)
  | ring
  deriving DecidableEq, Repr

/-- A call of `stop(is_force_stop)`; the destructor makes one too. -/
structure StopCall where
  isForceStop : Bool
  destructor : Bool
  deriving DecidableEq, Repr

/-- Where a call is. Each place is named for the step that comes next. -/
inductive CallPc where
  /-- no call -/
  | idle
  /-- `start()`, `is_stopping` was not set: the exchange of `is_start_called` -/
  | exchange
  /-- `setup_doorbell()`: `::eventfd` -/
  | eventfd
  | assign (fd : Nat)
  /-- the store of `doorbell_armed` -/
  | arm
  /-- `start_doorbell_wait()` -/
  | startWait
  | createThread
  /-- the assignment of `thread_handle` -/
  | setHandle
  /-- the store of `is_started` -/
  | publish
  /-- `stop()`, `is_stopping` is stored: `thread.joinable()` -/
  | joinable (call : StopCall)
  | postCancel (call : StopCall)
  | resetWork (call : StopCall)
  /-- `io_context.stop()` -/
  | stopContext (call : StopCall)
  /-- the comparison of the thread ids and `thread.join()` -/
  | join (call : StopCall)
  /-- `is_started` was set: the load of `is_stopping` -/
  | loadStopping (op : Control)
  /-- the pthread call -/
  | pthread (op : Control)
  /-- `ring()` has read `true`: `write_doorbell()` -/
  | write
  deriving DecidableEq, Repr

/-- What a call returned: an error code where the function has one, and the
priority `get_priority()` found. -/
structure Returned where
  call : Call
  ec : Option Error
  priority : Option Int
  deriving DecidableEq, Repr

/-- Who makes a call: another thread, or the executor's own from inside a handler. -/
inductive Caller (ι : Type) where
  | thread (t : ι)
  | executor
  deriving DecidableEq, Repr

/-- The handlers of the `io_context`. -/
inductive Handler (κ : Type) where
  | callback (k : κ)
  /-- posted by `stop()` -/
  | cancelDoorbell
  /-- the read of the doorbell, and once it has completed its result -/
  | doorbell (ec : Option AsioError)
  deriving DecidableEq, Repr

def Handler.isDoorbell {κ : Type} : Handler κ → Bool
  | .doorbell _ => true
  | _ => false

/-- The `std::thread` object. -/
inductive Thread where
  | notCreated
  | joinable
  | joined
  deriving DecidableEq, Repr

structure State (ι κ : Type) where
  io : IoContext (Handler κ)
  /-- was the constructor given a `doorbell_handler`? -/
  hasDoorbellHandler : Bool
  doorbellFd : Int
  doorbellArmed : Bool
  isStartCalled : Bool
  isStarted : Bool
  isStopping : Bool
  thread : Thread
  /-- `thread_handle` is assigned -/
  threadHandle : Bool
  /-- where the thread is, once it has been created -/
  executor : Option ExecutorPc
  call : Caller ι → CallPc
  /-- what the kernel has for the thread -/
  policy : Policy
  priority : Int
  cpu : Option Nat
  /-- the calls that have returned -/
  returned : List (Caller ι × Returned)
  /-- callbacks `dispatch()` has run at once -/
  dispatched : List κ
  destroyed : Bool
  /-- the process has ended: `std::terminate` or `std::abort` -/
  terminated : Bool

inductive Event (ι κ : Type) where
  /-- the first step of a call -/
  | call (c : Caller ι) (f : Call)
  /-- the next step of the call `c` makes; the answer of the system, if it asks -/
  | advance (c : Caller ι) (answer : Except Nat Nat)
  | post (c : Caller ι) (k : κ)
  | dispatch (c : Caller ι) (k : κ)
  /-- a component starts an operation whose handler is `k` -/
  | operation (k : κ)
  /-- an operation completes -/
  | complete (k : κ)
  /-- the read of the doorbell completes -/
  | read (ec : Option AsioError)
  /-- the `io_context` runs a handler -/
  | runOne (h : Handler κ)
  /-- the next step of `handle_doorbell()` or of the callback of `stop()` -/
  | executor
  | handlerReturn (workRemains : Bool)
  | callbackReturn
  /-- a callback or the doorbell handler throws -/
  | throws
  /-- `io_context.run()` returns -/
  | exit

/-- `CPU_SETSIZE` -/
def cpuSetSize : Nat := 1024

/-- The range check a control function makes first. `maxPriority` is
`sched_get_priority_max(SCHED_RR)`. -/
def Control.outOfRange (maxPriority : Int) : Control → Bool
  | .setPriority priority => priority < 0 ∨ priority > maxPriority
  | .getPriority => false
  | .setCpuAffinity cpuId => cpuId ≥ cpuSetSize

/-- `SCHED_OTHER` for priority 0, which is the only one it has. -/
def policyFor (priority : Int) : Policy := if priority = 0 then .schedOther else .schedRr

variable {ι κ : Type} [DecidableEq ι] [DecidableEq κ]

namespace State

def setCall (s : State ι κ) (c : Caller ι) (pc : CallPc) : State ι κ :=
  { s with call := Function.update s.call c pc }

/-- The call of `c` returns. -/
def ret (s : State ι κ) (c : Caller ι) (r : Returned) : State ι κ :=
  { s.setCall c .idle with returned := s.returned ++ [(c, r)] }

/-- Is `c` running code of the user, that may call the executor? -/
def mayCall (s : State ι κ) : Caller ι → Bool
  | .thread t => s.call (.thread t) = .idle
  | .executor =>
    s.call .executor = .idle ∧
      (s.executor = some .callback ∨ ∃ b, s.executor = some (.handler b))

/-- `io_context` is done with the handler it ran. -/
def finish (s : State ι κ) : State ι κ :=
  { s with io := s.io.finish, executor := some .polling }

end State

/-- The first step of a call. -/
def callStep (maxPriority : Int) (s : State ι κ) (c : Caller ι) : Call → State ι κ
  | .start =>
    if s.isStopping then s.ret c ⟨.start, some invalidArgument, none⟩ else s.setCall c .exchange
  | .stop isForceStop => { s with isStopping := true }.setCall c (.joinable ⟨isForceStop, false⟩)
  -- ~Executor(): stop(true)
  | .destroy => { s with isStopping := true }.setCall c (.joinable ⟨true, true⟩)
  | .control op =>
    if op.outOfRange maxPriority ∨ s.isStarted = false then
      s.ret c ⟨.control op, some invalidArgument, none⟩
    else s.setCall c (.loadStopping op)
  | .ring =>
    if s.doorbellArmed then { s with doorbellArmed := false }.setCall c .write
    else s.ret c ⟨.ring, none, none⟩

/-- The steps of `start()` after the load of `is_stopping`. -/
def startStep (s : State ι κ) (c : Caller ι) (answer : Except Nat Nat) :
    CallPc → Option (State ι κ)
  | .exchange =>
    if s.isStartCalled then some (s.ret c ⟨.start, some invalidArgument, none⟩)
    else
      some ({ s with isStartCalled := true }.setCall c
        (if s.hasDoorbellHandler then .eventfd else .createThread))
  | .eventfd =>
    match answer with
    | .error errno => some (s.ret c ⟨.start, some (.generic errno), none⟩)
    | .ok fd => some (s.setCall c (.assign fd))
  | .assign fd =>
    match answer with
    | .error value => some (s.ret c ⟨.start, some (.boost value), none⟩)
    | .ok _ => some ({ s with doorbellFd := fd }.setCall c .arm)
  | .arm => some ({ s with doorbellArmed := true }.setCall c .startWait)
  | .startWait => some ({ s with io := s.io.initiate (.doorbell none) }.setCall c .createThread)
  | .createThread =>
    match answer with
    | .error errno => some (s.ret c ⟨.start, some (.generic errno), none⟩)
    | .ok _ => some ({ s with thread := .joinable, executor := some .polling }.setCall c .setHandle)
  | .setHandle => some ({ s with threadHandle := true }.setCall c .publish)
  | .publish => some ({ s with isStarted := true }.ret c ⟨.start, none, none⟩)
  | _ => none

/-- `stop()` returns. In the destructor the members are destroyed next: a `std::thread`
that is still joinable terminates the process. -/
def stopReturn (s : State ι κ) (c : Caller ι) (call : StopCall) : State ι κ :=
  if call.destructor then
    { s.ret c ⟨.destroy, none, none⟩ with
      destroyed := true
      terminated := s.thread = .joinable }
  else s.ret c ⟨.stop call.isForceStop, none, none⟩

/-- The steps of `stop()` after the store of `is_stopping`. -/
def stopStep (s : State ι κ) (c : Caller ι) : CallPc → Option (State ι κ)
  | .joinable call =>
    if s.thread = .joinable then
      some (s.setCall c (if 0 ≤ s.doorbellFd then .postCancel call else .resetWork call))
    else some (stopReturn s c call)
  | .postCancel call =>
    some ({ s with io := s.io.post .cancelDoorbell }.setCall c (.resetWork call))
  | .resetWork call =>
    some ({ s with io := s.io.resetWork }.setCall c
      (if call.isForceStop then .stopContext call else .join call))
  | .stopContext call => some ({ s with io := s.io.stop }.setCall c (.join call))
  | .join call =>
    if c = .executor then some (stopReturn s c call)
    else if s.executor = some .exited then some (stopReturn { s with thread := .joined } c call)
    else none
  | _ => none

/-- A pthread call that succeeds. -/
def controlReturn (s : State ι κ) (c : Caller ι) (op : Control) : State ι κ :=
  match op with
  | .setPriority priority =>
    { s with policy := policyFor priority, priority := priority }.ret c ⟨.control op, none, none⟩
  | .getPriority => s.ret c ⟨.control op, none, some s.priority⟩
  | .setCpuAffinity cpuId => { s with cpu := some cpuId }.ret c ⟨.control op, none, none⟩

/-- The steps of a control function after the load of `is_started`. -/
def controlStep (s : State ι κ) (c : Caller ι) (answer : Except Nat Nat) :
    CallPc → Option (State ι κ)
  | .loadStopping op =>
    if s.isStopping then some (s.ret c ⟨.control op, some invalidArgument, none⟩)
    else some (s.setCall c (.pthread op))
  | .pthread op =>
    match answer with
    | .error errno => some (s.ret c ⟨.control op, some (.generic errno), none⟩)
    | .ok _ => some (controlReturn s c op)
  | _ => none

/-- The next step of a call. -/
def advance (s : State ι κ) (c : Caller ι) (answer : Except Nat Nat) : Option (State ι κ) :=
  match s.call c with
  | .idle => none
  | .exchange | .eventfd | .assign _ | .arm | .startWait | .createThread | .setHandle | .publish =>
    startStep s c answer (s.call c)
  | .joinable _ | .postCancel _ | .resetWork _ | .stopContext _ | .join _ =>
    stopStep s c (s.call c)
  | .loadStopping _ | .pthread _ => controlStep s c answer (s.call c)
  | .write => some (s.ret c ⟨.ring, none, none⟩)

/-- The `io_context` enters a handler. -/
def enter (s : State ι κ) : Handler κ → State ι κ
  | .callback _ => { s with executor := some .callback }
  -- the callback of stop() first stores false
  | .cancelDoorbell => { s with doorbellArmed := false, executor := some .cancelling }
  | .doorbell none => { s with executor := some .completed }
  | .doorbell (some _) => { s with executor := some .failed }

/-- The steps of `handle_doorbell()`, of `run_doorbell_handler()` around the handler
and of the callback of `stop()`. -/
def executorStep (s : State ι κ) : Option (State ι κ) :=
  match s.executor with
  | some .failed | some .stopping => some { s with doorbellArmed := false }.finish
  | some .completed =>
    some { s with executor := some (if s.isStopping then .stopping else .arming) }
  | some .arming => some { s with doorbellArmed := true, executor := some (.handler false) }
  | some .disarming => some { s with doorbellArmed := false, executor := some .rewriting }
  | some .rewriting => some { s with executor := some .checking }
  | some .checking =>
    if s.isStopping then some s.finish else some { s with executor := some .restarting }
  | some .restarting => some { s with io := s.io.initiate (.doorbell none) }.finish
  | some .cancelling =>
    some { s with
      io := s.io.cancel Handler.isDoorbell fun _ => .doorbell (some .operationAborted) }.finish
  | _ => none

/-- One atomic step of one of the threads, of the kernel or of the `io_context`. -/
def step (maxPriority : Int) (s : State ι κ) (e : Event ι κ) : Option (State ι κ) :=
  if s.terminated ∨ s.destroyed then none
  else
    match e with
    | .call c f => if s.mayCall c then some (callStep maxPriority s c f) else none
    | .advance c answer => advance s c answer
    | .post c k =>
      if s.mayCall c then some { s with io := s.io.post (.callback k) } else none
    | .dispatch c k =>
      if s.mayCall c then
        some (if c = .executor then { s with dispatched := s.dispatched ++ [k] }
          else { s with io := s.io.post (.callback k) })
      else none
    | .operation k => some { s with io := s.io.initiate (.callback k) }
    | .complete k =>
      if .callback k ∈ s.io.pending then
        some { s with io := s.io.complete (.callback k) (.callback k) }
      else none
    | .read ec =>
      if .doorbell none ∈ s.io.pending then
        some { s with io := s.io.complete (.doorbell none) (.doorbell ec) }
      else none
    | .runOne h =>
      if s.executor = some .polling then
        (s.io.runOne h).map fun io => enter { s with io := io } h
      else none
    | .executor => executorStep s
    | .handlerReturn workRemains =>
      if s.executor = some (.handler false) ∧ s.call .executor = .idle then
        some { s with executor := some (if workRemains then .disarming else .checking) }
      else none
    | .callbackReturn =>
      if s.executor = some .callback ∧ s.call .executor = .idle then some s.finish else none
    | .throws =>
      -- run() logs the exception and calls std::abort
      if s.mayCall .executor then some { s with terminated := true } else none
    | .exit =>
      if s.executor = some .polling ∧ s.io.stopped then some { s with executor := some .exited }
      else none

/-- `Executor()` and `Executor(doorbell_handler)` -/
def construct (ι κ : Type) (hasDoorbellHandler : Bool) : State ι κ where
  io := .create (Handler κ)
  hasDoorbellHandler := hasDoorbellHandler
  doorbellFd := -1
  doorbellArmed := false
  isStartCalled := false
  isStarted := false
  isStopping := false
  thread := .notCreated
  threadHandle := false
  executor := none
  call := fun _ => .idle
  policy := .schedOther
  priority := 0
  cpu := none
  returned := []
  dispatched := []
  destroyed := false
  terminated := false

def system (ι κ : Type) [DecidableEq ι] [DecidableEq κ] (maxPriority : Int) :
    System (State ι κ) (Event ι κ) where
  init s := ∃ hasDoorbellHandler, s = construct ι κ hasDoorbellHandler
  step := step maxPriority

/-! ## What a step can do -/

/-- What a call of `stop()` leaves when it returns. -/
def StopCall.result (call : StopCall) : Returned :=
  if call.destructor then ⟨.destroy, none, none⟩ else ⟨.stop call.isForceStop, none, none⟩

/-- The call of `stop()` a public function makes. -/
inductive StopsWith : Call → StopCall → Prop where
  | stop (isForceStop : Bool) : StopsWith (.stop isForceStop) ⟨isForceStop, false⟩
  | destroy : StopsWith .destroy ⟨true, true⟩

/-- The step of `start()` that asks the system, and the error it returns when the
answer is one. -/
inductive FailsWith (errno : Nat) : CallPc → Error → Prop where
  | eventfd : FailsWith errno .eventfd (.generic errno)
  | assign (fd : Nat) : FailsWith errno (.assign fd) (.boost errno)
  | createThread : FailsWith errno .createThread (.generic errno)

/-- One case for each thing a step can do. -/
inductive StepSpec (maxPriority : Int) (s : State ι κ) : Event ι κ → State ι κ → Prop where
  | startStopped (c : Caller ι) (hmay : s.mayCall c) (hstopping : s.isStopping = true) :
    StepSpec maxPriority s (.call c .start) (s.ret c ⟨.start, some invalidArgument, none⟩)
  | startCalled (c : Caller ι) (hmay : s.mayCall c) (hstopping : s.isStopping = false) :
    StepSpec maxPriority s (.call c .start) (s.setCall c .exchange)
  | stopCalled (c : Caller ι) (f : Call) (call : StopCall) (hmay : s.mayCall c)
      (hf : StopsWith f call) :
    StepSpec maxPriority s (.call c f) ({ s with isStopping := true }.setCall c (.joinable call))
  | controlRefused (c : Caller ι) (op : Control) (hmay : s.mayCall c)
      (hrefused : op.outOfRange maxPriority = true ∨ s.isStarted = false) :
    StepSpec maxPriority s (.call c (.control op))
      (s.ret c ⟨.control op, some invalidArgument, none⟩)
  | controlCalled (c : Caller ι) (op : Control) (hmay : s.mayCall c)
      (hrange : op.outOfRange maxPriority = false) (hstarted : s.isStarted = true) :
    StepSpec maxPriority s (.call c (.control op)) (s.setCall c (.loadStopping op))
  | ringArmed (c : Caller ι) (hmay : s.mayCall c) (harmed : s.doorbellArmed = true) :
    StepSpec maxPriority s (.call c .ring) ({ s with doorbellArmed := false }.setCall c .write)
  | ringUnarmed (c : Caller ι) (hmay : s.mayCall c) (harmed : s.doorbellArmed = false) :
    StepSpec maxPriority s (.call c .ring) (s.ret c ⟨.ring, none, none⟩)
  | startAgain (c : Caller ι) (answer : Except Nat Nat) (hpc : s.call c = .exchange)
      (hcalled : s.isStartCalled = true) :
    StepSpec maxPriority s (.advance c answer) (s.ret c ⟨.start, some invalidArgument, none⟩)
  | startFirst (c : Caller ι) (answer : Except Nat Nat) (hpc : s.call c = .exchange)
      (hcalled : s.isStartCalled = false) :
    StepSpec maxPriority s (.advance c answer)
      ({ s with isStartCalled := true }.setCall c
        (if s.hasDoorbellHandler then .eventfd else .createThread))
  | startFails (c : Caller ι) (errno : Nat) (ec : Error) (hpc : FailsWith errno (s.call c) ec) :
    StepSpec maxPriority s (.advance c (.error errno)) (s.ret c ⟨.start, some ec, none⟩)
  | eventfd (c : Caller ι) (fd : Nat) (hpc : s.call c = .eventfd) :
    StepSpec maxPriority s (.advance c (.ok fd)) (s.setCall c (.assign fd))
  | assign (c : Caller ι) (fd answer : Nat) (hpc : s.call c = .assign fd) :
    StepSpec maxPriority s (.advance c (.ok answer)) ({ s with doorbellFd := fd }.setCall c .arm)
  | arm (c : Caller ι) (answer : Except Nat Nat) (hpc : s.call c = .arm) :
    StepSpec maxPriority s (.advance c answer)
      ({ s with doorbellArmed := true }.setCall c .startWait)
  | startWait (c : Caller ι) (answer : Except Nat Nat) (hpc : s.call c = .startWait) :
    StepSpec maxPriority s (.advance c answer)
      ({ s with io := s.io.initiate (.doorbell none) }.setCall c .createThread)
  | createThread (c : Caller ι) (answer : Nat) (hpc : s.call c = .createThread) :
    StepSpec maxPriority s (.advance c (.ok answer))
      ({ s with thread := .joinable, executor := some .polling }.setCall c .setHandle)
  | setHandle (c : Caller ι) (answer : Except Nat Nat) (hpc : s.call c = .setHandle) :
    StepSpec maxPriority s (.advance c answer) ({ s with threadHandle := true }.setCall c .publish)
  | publish (c : Caller ι) (answer : Except Nat Nat) (hpc : s.call c = .publish) :
    StepSpec maxPriority s (.advance c answer)
      ({ s with isStarted := true }.ret c ⟨.start, none, none⟩)
  | notJoinable (c : Caller ι) (answer : Except Nat Nat) (call : StopCall)
      (hpc : s.call c = .joinable call) (hthread : s.thread ≠ .joinable) :
    StepSpec maxPriority s (.advance c answer) (stopReturn s c call)
  | isJoinable (c : Caller ι) (answer : Except Nat Nat) (call : StopCall)
      (hpc : s.call c = .joinable call) (hthread : s.thread = .joinable) :
    StepSpec maxPriority s (.advance c answer)
      (s.setCall c (if 0 ≤ s.doorbellFd then .postCancel call else .resetWork call))
  | postCancel (c : Caller ι) (answer : Except Nat Nat) (call : StopCall)
      (hpc : s.call c = .postCancel call) :
    StepSpec maxPriority s (.advance c answer)
      ({ s with io := s.io.post .cancelDoorbell }.setCall c (.resetWork call))
  | resetWork (c : Caller ι) (answer : Except Nat Nat) (call : StopCall)
      (hpc : s.call c = .resetWork call) :
    StepSpec maxPriority s (.advance c answer)
      ({ s with io := s.io.resetWork }.setCall c
        (if call.isForceStop then .stopContext call else .join call))
  | stopContext (c : Caller ι) (answer : Except Nat Nat) (call : StopCall)
      (hpc : s.call c = .stopContext call) :
    StepSpec maxPriority s (.advance c answer) ({ s with io := s.io.stop }.setCall c (.join call))
  | joinSelf (answer : Except Nat Nat) (call : StopCall) (hpc : s.call .executor = .join call) :
    StepSpec maxPriority s (.advance .executor answer) (stopReturn s .executor call)
  | joinOther (t : ι) (answer : Except Nat Nat) (call : StopCall)
      (hpc : s.call (.thread t) = .join call) (hexited : s.executor = some .exited) :
    StepSpec maxPriority s (.advance (.thread t) answer)
      (stopReturn { s with thread := .joined } (.thread t) call)
  | controlStopping (c : Caller ι) (answer : Except Nat Nat) (op : Control)
      (hpc : s.call c = .loadStopping op) (hstopping : s.isStopping = true) :
    StepSpec maxPriority s (.advance c answer)
      (s.ret c ⟨.control op, some invalidArgument, none⟩)
  | controlPassed (c : Caller ι) (answer : Except Nat Nat) (op : Control)
      (hpc : s.call c = .loadStopping op) (hstopping : s.isStopping = false) :
    StepSpec maxPriority s (.advance c answer) (s.setCall c (.pthread op))
  | pthreadFails (c : Caller ι) (errno : Nat) (op : Control) (hpc : s.call c = .pthread op) :
    StepSpec maxPriority s (.advance c (.error errno))
      (s.ret c ⟨.control op, some (.generic errno), none⟩)
  | pthread (c : Caller ι) (answer : Nat) (op : Control) (hpc : s.call c = .pthread op) :
    StepSpec maxPriority s (.advance c (.ok answer)) (controlReturn s c op)
  | write (c : Caller ι) (answer : Except Nat Nat) (hpc : s.call c = .write) :
    StepSpec maxPriority s (.advance c answer) (s.ret c ⟨.ring, none, none⟩)
  | post (c : Caller ι) (k : κ) (hmay : s.mayCall c) :
    StepSpec maxPriority s (.post c k) { s with io := s.io.post (.callback k) }
  | dispatchInside (k : κ) (hmay : s.mayCall .executor) :
    StepSpec maxPriority s (.dispatch .executor k) { s with dispatched := s.dispatched ++ [k] }
  | dispatchOutside (t : ι) (k : κ) (hmay : s.mayCall (.thread t)) :
    StepSpec maxPriority s (.dispatch (.thread t) k) { s with io := s.io.post (.callback k) }
  | operation (k : κ) :
    StepSpec maxPriority s (.operation k) { s with io := s.io.initiate (.callback k) }
  | complete (k : κ) (hpending : .callback k ∈ s.io.pending) :
    StepSpec maxPriority s (.complete k)
      { s with io := s.io.complete (.callback k) (.callback k) }
  | read (ec : Option AsioError) (hpending : .doorbell none ∈ s.io.pending) :
    StepSpec maxPriority s (.read ec) { s with io := s.io.complete (.doorbell none) (.doorbell ec) }
  | runOne (h : Handler κ) (io : IoContext (Handler κ)) (hpc : s.executor = some .polling)
      (hrun : s.io.runOne h = some io) :
    StepSpec maxPriority s (.runOne h) (enter { s with io := io } h)
  | ignored (hpc : s.executor = some .failed ∨ s.executor = some .stopping) :
    StepSpec maxPriority s .executor { s with doorbellArmed := false }.finish
  | completed (hpc : s.executor = some .completed) :
    StepSpec maxPriority s .executor
      { s with executor := some (if s.isStopping then .stopping else .arming) }
  | arming (hpc : s.executor = some .arming) :
    StepSpec maxPriority s .executor
      { s with doorbellArmed := true, executor := some (.handler false) }
  | disarming (hpc : s.executor = some .disarming) :
    StepSpec maxPriority s .executor
      { s with doorbellArmed := false, executor := some .rewriting }
  | rewriting (hpc : s.executor = some .rewriting) :
    StepSpec maxPriority s .executor { s with executor := some .checking }
  | checkedStopping (hpc : s.executor = some .checking) (hstopping : s.isStopping = true) :
    StepSpec maxPriority s .executor s.finish
  | checked (hpc : s.executor = some .checking) (hstopping : s.isStopping = false) :
    StepSpec maxPriority s .executor { s with executor := some .restarting }
  | restarting (hpc : s.executor = some .restarting) :
    StepSpec maxPriority s .executor { s with io := s.io.initiate (.doorbell none) }.finish
  | cancelling (hpc : s.executor = some .cancelling) :
    StepSpec maxPriority s .executor
      { s with
        io := s.io.cancel Handler.isDoorbell fun _ => .doorbell (some .operationAborted) }.finish
  | handlerReturn (workRemains : Bool) (hpc : s.executor = some (.handler false))
      (hidle : s.call .executor = .idle) :
    StepSpec maxPriority s (.handlerReturn workRemains)
      { s with executor := some (if workRemains then .disarming else .checking) }
  | callbackReturn (hpc : s.executor = some .callback) (hidle : s.call .executor = .idle) :
    StepSpec maxPriority s .callbackReturn s.finish
  | throws (hmay : s.mayCall .executor) :
    StepSpec maxPriority s .throws { s with terminated := true }
  | exit (hpc : s.executor = some .polling) (hstopped : s.io.stopped = true) :
    StepSpec maxPriority s .exit { s with executor := some .exited }

variable {maxPriority : Int} {s s' : State ι κ}

theorem callStep_spec {c : Caller ι} (hmay : s.mayCall c) (f : Call) :
    StepSpec maxPriority s (.call c f) (callStep maxPriority s c f) := by
  cases f with
  | start =>
    rw [callStep]
    split
    · rename_i hstopping
      exact .startStopped c hmay hstopping
    · rename_i hstopping
      exact .startCalled c hmay (by simpa using hstopping)
  | stop isForceStop => exact .stopCalled c _ _ hmay (.stop isForceStop)
  | destroy => exact .stopCalled c _ _ hmay .destroy
  | control op =>
    rw [callStep]
    split
    · rename_i hrefused
      exact .controlRefused c op hmay hrefused
    · rename_i hrefused
      rw [not_or] at hrefused
      exact .controlCalled c op hmay (by simpa using hrefused.1) (by simpa using hrefused.2)
  | ring =>
    rw [callStep]
    split
    · rename_i harmed
      exact .ringArmed c hmay harmed
    · rename_i harmed
      exact .ringUnarmed c hmay (by simpa using harmed)

theorem advance_spec {c : Caller ι} {answer : Except Nat Nat}
    (he : advance s c answer = some s') : StepSpec maxPriority s (.advance c answer) s' := by
  unfold advance at he
  cases hpc : s.call c with
  | idle => rw [hpc] at he; cases he
  | exchange =>
    rw [hpc] at he
    simp only [startStep] at he
    split at he
    · rename_i hcalled
      cases he
      exact .startAgain c answer hpc hcalled
    · rename_i hcalled
      cases he
      exact .startFirst c answer hpc (by simpa using hcalled)
  | eventfd =>
    rw [hpc] at he
    cases answer with
    | error errno => cases he; exact .startFails c errno _ (hpc ▸ .eventfd)
    | ok fd => cases he; exact .eventfd c fd hpc
  | assign fd =>
    rw [hpc] at he
    cases answer with
    | error errno => cases he; exact .startFails c errno _ (hpc ▸ .assign fd)
    | ok answer => cases he; exact .assign c fd answer hpc
  | arm => rw [hpc] at he; cases he; exact .arm c answer hpc
  | startWait => rw [hpc] at he; cases he; exact .startWait c answer hpc
  | createThread =>
    rw [hpc] at he
    cases answer with
    | error errno => cases he; exact .startFails c errno _ (hpc ▸ .createThread)
    | ok answer => cases he; exact .createThread c answer hpc
  | setHandle => rw [hpc] at he; cases he; exact .setHandle c answer hpc
  | publish => rw [hpc] at he; cases he; exact .publish c answer hpc
  | joinable call =>
    rw [hpc] at he
    simp only [stopStep] at he
    split at he
    · rename_i hthread
      cases he
      exact .isJoinable c answer call hpc hthread
    · rename_i hthread
      cases he
      exact .notJoinable c answer call hpc hthread
  | postCancel call => rw [hpc] at he; cases he; exact .postCancel c answer call hpc
  | resetWork call => rw [hpc] at he; cases he; exact .resetWork c answer call hpc
  | stopContext call => rw [hpc] at he; cases he; exact .stopContext c answer call hpc
  | join call =>
    rw [hpc] at he
    simp only [stopStep] at he
    cases c with
    | executor =>
      rw [if_pos rfl] at he
      cases he
      exact .joinSelf answer call hpc
    | thread t =>
      rw [if_neg (by simp)] at he
      obtain ⟨hexited, ⟨⟩⟩ := Option.ite_none_right_eq_some.mp he
      exact .joinOther t answer call hpc hexited
  | loadStopping op =>
    rw [hpc] at he
    simp only [controlStep] at he
    split at he
    · rename_i hstopping
      cases he
      exact .controlStopping c answer op hpc hstopping
    · rename_i hstopping
      cases he
      exact .controlPassed c answer op hpc (by simpa using hstopping)
  | pthread op =>
    rw [hpc] at he
    cases answer with
    | error errno => cases he; exact .pthreadFails c errno op hpc
    | ok answer => cases he; exact .pthread c answer op hpc
  | write => rw [hpc] at he; cases he; exact .write c answer hpc

theorem executorStep_spec (he : executorStep s = some s') :
    StepSpec maxPriority s .executor s' := by
  unfold executorStep at he
  split at he
  case h_1 hpc => cases he; exact .ignored (.inl hpc)
  case h_2 hpc => cases he; exact .ignored (.inr hpc)
  case h_3 hpc => cases he; exact .completed hpc
  case h_4 hpc => cases he; exact .arming hpc
  case h_5 hpc => cases he; exact .disarming hpc
  case h_6 hpc => cases he; exact .rewriting hpc
  case h_7 hpc =>
    split at he
    · rename_i hstopping
      cases he
      exact .checkedStopping hpc hstopping
    · rename_i hstopping
      cases he
      exact .checked hpc (by simpa using hstopping)
  case h_8 hpc => cases he; exact .restarting hpc
  case h_9 hpc => cases he; exact .cancelling hpc
  case h_10 => cases he

theorem step_spec {e : Event ι κ} (he : step maxPriority s e = some s') :
    s.terminated = false ∧ s.destroyed = false ∧ StepSpec maxPriority s e s' := by
  obtain ⟨hlive, he⟩ := Option.ite_none_left_eq_some.mp he
  rw [not_or] at hlive
  refine ⟨by simpa using hlive.1, by simpa using hlive.2, ?_⟩
  clear hlive
  cases e with
  | call c f =>
    obtain ⟨hmay, ⟨⟩⟩ := Option.ite_none_right_eq_some.mp he
    exact callStep_spec hmay f
  | advance c answer => exact advance_spec he
  | post c k =>
    obtain ⟨hmay, ⟨⟩⟩ := Option.ite_none_right_eq_some.mp he
    exact .post c k hmay
  | dispatch c k =>
    obtain ⟨hmay, he⟩ := Option.ite_none_right_eq_some.mp he
    cases he
    cases c with
    | executor => exact .dispatchInside k hmay
    | thread t => exact .dispatchOutside t k hmay
  | operation k => cases he; exact .operation k
  | complete k =>
    obtain ⟨hpending, ⟨⟩⟩ := Option.ite_none_right_eq_some.mp he
    exact .complete k hpending
  | read ec =>
    obtain ⟨hpending, ⟨⟩⟩ := Option.ite_none_right_eq_some.mp he
    exact .read ec hpending
  | runOne h =>
    obtain ⟨hpc, he⟩ := Option.ite_none_right_eq_some.mp he
    obtain ⟨io, hrun, rfl⟩ := Option.map_eq_some_iff.mp he
    exact .runOne h io hpc hrun
  | executor => exact executorStep_spec he
  | handlerReturn workRemains =>
    obtain ⟨⟨hpc, hidle⟩, ⟨⟩⟩ := Option.ite_none_right_eq_some.mp he
    exact .handlerReturn workRemains hpc hidle
  | callbackReturn =>
    obtain ⟨⟨hpc, hidle⟩, ⟨⟩⟩ := Option.ite_none_right_eq_some.mp he
    exact .callbackReturn hpc hidle
  | throws =>
    obtain ⟨hmay, ⟨⟩⟩ := Option.ite_none_right_eq_some.mp he
    exact .throws hmay
  | exit =>
    obtain ⟨⟨hpc, hstopped⟩, ⟨⟩⟩ := Option.ite_none_right_eq_some.mp he
    exact .exit hpc hstopped

end CppComponents.Executor.Lifecycle
