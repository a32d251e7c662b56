import CppComponents.Executor.Model

/-!
# No wake-up is lost

While the executor is not stopping, an item in the queue is always on its way
to the handler: its producer has yet to exchange `doorbell_armed`, or a
wake-up is pending (`Waking`), or the handler has not looked at the queue
since the arming exchange. `Running` is the invariant behind that. Its core is
`disarmed`: whenever `doorbell_armed` is `false`, the thread that stored the
`false` has written the eventfd or is about to, and the executor has not armed
again since. So a producer whose exchange reads `false` may skip its write.
-/

namespace CppComponents.Executor

open CppComponents.Transition

variable {ι : Type}

/-- The handler returns `false` only after it has found the queue empty since
its arming exchange. -/
def honestHandler : Guard (State ι) (Event ι) :=
  fun s e => e = .handlerReturn false → s.executor = .handler true

instance (s : State ι) (e : Event ι) [DecidableEq ι] : Decidable (honestHandler s e) :=
  inferInstanceAs (Decidable (_ → _))

/-- The eventfd is written, or read with the completion queued, or a producer
is about to write it. -/
def State.Written (s : State ι) : Prop :=
  0 < s.counter ∨ 0 < s.ready ∨ ∃ p, s.producer p = .writing

/-- The program points from which the executor arms before it waits again. -/
def ExecutorPc.WillRun : ExecutorPc → Prop
  | .completed | .arming | .rewriting => True
  | _ => False

/-- The program points from which the handler, which has armed, has yet to look
at the queue. -/
def ExecutorPc.WillLook : ExecutorPc → Prop
  | .handler false | .disarming => True
  | _ => False

/-- The executor will run the handler without any further `ring()`. -/
def State.Waking (s : State ι) : Prop :=
  s.Written ∨ s.executor.WillRun

/-- The program points of an executor nobody has stopped. -/
def ExecutorPc.IsRunning : ExecutorPc → Prop
  | .failed | .stopping | .callback | .cancelling | .exited => False
  | _ => True

/-- What holds between any two atomic steps while nobody has called `stop()`. -/
structure Running (s : State ι) : Prop where
  stop : s.stop = .notCalled
  noCancel : s.cancelPosted = 0 ∧ s.aborted = 0 ∧ s.work = true
  executor : s.executor.IsRunning
  oneWait : s.executor = .polling → s.waiting + s.ready = 1
  noWait : s.executor ≠ .polling → s.waiting = 0 ∧ s.ready = 0
  disarmed : s.doorbellArmed = false → s.Waking
  queued : 0 < s.queue →
    (∃ p, s.producer p = .ringing) ∨ s.Waking ∨ s.executor.WillLook

/-- After `setup_doorbell()` the executor waits and the doorbell is armed. -/
theorem running_init {s₀ : State ι} (h : Constructed s₀) : Running (setupDoorbell s₀) := by
  obtain ⟨-, ⟨-, hstop, hposted⟩, -, ⟨hwaiting, hready, haborted⟩, hwork, hexec, -, hqueue⟩ := h
  exact {
    stop := hstop
    noCancel := ⟨hposted, haborted, hwork⟩
    executor := by simp [setupDoorbell, startDoorbellWait, hexec, ExecutorPc.IsRunning]
    oneWait := fun _ => by simp [setupDoorbell, startDoorbellWait, hwaiting, hready]
    noWait := fun hne => absurd hexec hne
    disarmed := fun harmed => by simp [setupDoorbell, startDoorbellWait] at harmed
    queued := fun hq => .inl (hqueue hq) }

/-- A doorbell that was written can be read. -/
theorem writeDoorbell_counter_pos (s : State ι) : 0 < (writeDoorbell s).counter := by
  unfold writeDoorbell eventfdMax
  split
  · exact Nat.succ_pos _
  · omega

/-! ## The steps of the executor thread -/

/-- A step of the executor thread inside `handle_doorbell()` preserves the
invariant if it leaves no queued item without someone to see it. -/
theorem Running.moveTo {s : State ι} (h : Running s) {pc : ExecutorPc} {armed : Bool}
    {queue : Nat} (hne : s.executor ≠ .polling) (hpc : pc.IsRunning) (hpc' : pc ≠ .polling)
    (hdisarmed : armed = false → s.Written ∨ pc.WillRun)
    (hqueued : 0 < queue →
      (∃ p, s.producer p = .ringing) ∨ (s.Written ∨ pc.WillRun) ∨ pc.WillLook) :
    Running { s with doorbellArmed := armed, queue := queue, executor := pc } :=
  { h with
    executor := hpc
    oneWait := fun hp => absurd hp hpc'
    noWait := fun _ => h.noWait hne
    disarmed := hdisarmed
    queued := hqueued }

/-- Where the executor is not about to arm, a wake-up has been written. -/
theorem Running.written_of_disarmed {s : State ι} (h : Running s)
    (hpc : ¬ s.executor.WillRun) (harmed : s.doorbellArmed = false) : s.Written :=
  (h.disarmed harmed).resolve_right hpc

/-- The read of the eventfd: the counter is gone, a completion is queued. -/
theorem running_read {s : State ι} (h : Running s) (hwait : 0 < s.waiting) :
    Running { s with waiting := s.waiting - 1, ready := s.ready + 1, counter := 0 } := by
  have hpolling : s.executor = .polling := by
    by_contra hne
    have := (h.noWait hne).1
    omega
  have hone := h.oneWait hpolling
  have hwritten : ({ s with waiting := s.waiting - 1, ready := s.ready + 1, counter := 0 } :
      State ι).Written := .inr (.inl (Nat.succ_pos _))
  exact { h with
    oneWait := fun _ => by
      show s.waiting - 1 + (s.ready + 1) = 1
      omega
    noWait := fun hne => absurd hpolling hne
    disarmed := fun _ => .inl hwritten
    queued := fun _ => .inr (.inl (.inl hwritten)) }

/-- A completed wait hands its duty on to the handler that is now ready. -/
theorem running_deliverReady {s : State ι} (h : Running s) (hpc : s.executor = .polling)
    (hready : 0 < s.ready) :
    Running { s with ready := s.ready - 1, executor := .completed } := by
  have hone := h.oneWait hpc
  exact { h with
    executor := trivial
    oneWait := fun hp => by cases hp
    noWait := fun _ => ⟨by show s.waiting = 0; omega, by show s.ready - 1 = 0; omega⟩
    disarmed := fun _ => .inr trivial
    queued := fun _ => .inr (.inl (.inr trivial)) }

/-- The executor rings for itself: the eventfd has been written. -/
theorem running_rewriting {s : State ι} (h : Running s) (hpc : s.executor = .rewriting) :
    Running { s with counter := (writeDoorbell s).counter, executor := .checking } := by
  have hwritten : ({ s with counter := (writeDoorbell s).counter } : State ι).Written :=
    .inl (writeDoorbell_counter_pos s)
  exact { h with
    executor := trivial
    oneWait := fun hp => by cases hp
    noWait := fun _ => h.noWait (by simp [hpc])
    disarmed := fun _ => .inl hwritten
    queued := fun _ => .inr (.inl (.inl hwritten)) }

/-- The executor moves on without arming, to where it will look at the queue only if it
would have. -/
theorem Running.moveOn {s : State ι} (h : Running s) {pc : ExecutorPc} {queue : Nat}
    (hne : s.executor ≠ .polling) (hrun : ¬ s.executor.WillRun) (hpc : pc.IsRunning)
    (hpc' : pc ≠ .polling) (hlook : s.executor.WillLook → 0 < queue → pc.WillLook)
    (hqueue : 0 < queue → 0 < s.queue) :
    Running { s with queue := queue, executor := pc } := by
  refine h.moveTo hne hpc hpc' (fun harmed => .inl (h.written_of_disarmed hrun harmed)) ?_
  intro hq
  rcases h.queued (hqueue hq) with hring | hwake | hlook'
  · exact .inl hring
  · exact .inr (.inl (.inl (hwake.resolve_right hrun)))
  · exact .inr (.inr (hlook hlook' hq))

/-- The wait starts: what is queued has a ringing producer or a written wake-up. -/
theorem running_restarting {s : State ι} (h : Running s) (hpc : s.executor = .restarting) :
    Running { s with waiting := s.waiting + 1, executor := .polling } := by
  have hrun : ¬ s.executor.WillRun := by simp [hpc, ExecutorPc.WillRun]
  obtain ⟨hwaiting, hready⟩ := h.noWait (by simp [hpc])
  exact { h with
    executor := trivial
    oneWait := fun _ => by
      show s.waiting + 1 + s.ready = 1
      omega
    noWait := fun hp => absurd rfl hp
    disarmed := fun harmed => .inl (h.written_of_disarmed hrun harmed)
    queued := fun hq => by
      rcases h.queued hq with hring | hwake | hlook
      · exact .inl hring
      · exact .inr (.inl (.inl (hwake.resolve_right hrun)))
      · simp [hpc, ExecutorPc.WillLook] at hlook }

/-- The handler returns. -/
theorem running_handlerReturn {s : State ι} (h : Running s) {sawEmpty workRemains : Bool}
    (hpc : s.executor = .handler sawEmpty)
    (hok : honestHandler s (.handlerReturn workRemains)) :
    Running { s with executor := if workRemains then .disarming else .checking } := by
  have hne : s.executor ≠ .polling := by simp [hpc]
  have hrun : ¬ s.executor.WillRun := by simp [hpc, ExecutorPc.WillRun]
  cases workRemains with
  | true => exact h.moveOn hne hrun trivial (by simp) (fun _ _ => trivial) id
  | false =>
    -- an honest handler has found the queue empty since it armed
    have hsaw : s.executor = .handler true := hok rfl
    exact h.moveOn hne hrun trivial (by simp)
      (fun hlook => by simp [hsaw, ExecutorPc.WillLook] at hlook) id

/-! ## The steps of the producers -/

variable [DecidableEq ι]

theorem setProducer_self (s : State ι) (p : ι) (pc : ProducerPc) :
    (s.setProducer p pc).producer p = pc := by simp [State.setProducer]

theorem setProducer_other (s : State ι) {p q : ι} (pc : ProducerPc) (h : q ≠ p) :
    (s.setProducer p pc).producer q = s.producer q := by simp [State.setProducer, h]

/-- A producer that is not about to write moves: what was written still is. -/
theorem written_setProducer {s : State ι} {p : ι} {pc : ProducerPc}
    (hp : s.producer p ≠ .writing) (h : s.Written) : (s.setProducer p pc).Written := by
  rcases h with hc | hr | ⟨q, hq⟩
  · exact .inl hc
  · exact .inr (.inl hr)
  · have hne : q ≠ p := fun heq => hp (heq ▸ hq)
    exact .inr (.inr ⟨q, by rw [setProducer_other s pc hne, hq]⟩)

/-- Entering `ring()`, with or without a push. -/
theorem running_enterRing {s : State ι} {p : ι} {n : Nat} (h : Running s)
    (hp : s.producer p = .idle) :
    Running { s.setProducer p .ringing with queue := n } :=
  { h with
    disarmed := fun harmed =>
      (h.disarmed harmed).imp_left (written_setProducer (by simp [hp]))
    queued := fun _ => .inl ⟨p, setProducer_self s p .ringing⟩ }

/-- The exchange of `ring()`. A producer that reads `false` leaves the wake-up
to whoever stored it. -/
theorem running_exchange {s : State ι} {p : ι} (h : Running s)
    (hp : s.producer p = .ringing) :
    Running { s.setProducer p (if s.doorbellArmed then .writing else .idle) with
      doorbellArmed := false } := by
  have hwaking : (s.setProducer p (if s.doorbellArmed then .writing else .idle)).Waking := by
    by_cases harmed : s.doorbellArmed
    · rw [if_pos harmed]
      exact .inl (.inr (.inr ⟨p, setProducer_self s p .writing⟩))
    · rw [if_neg harmed]
      exact (h.disarmed (by simpa using harmed)).imp_left (written_setProducer (by simp [hp]))
  exact { h with
    disarmed := fun _ => hwaking
    queued := fun _ => .inr (.inl hwaking) }

/-- The `write_doorbell()` of `ring()`. -/
theorem running_write {s : State ι} {p : ι} (h : Running s) :
    Running { s.setProducer p .idle with counter := (writeDoorbell s).counter } := by
  have hwritten : ({ s.setProducer p .idle with counter := (writeDoorbell s).counter } :
      State ι).Written := .inl (writeDoorbell_counter_pos s)
  exact { h with
    disarmed := fun _ => .inl hwritten
    queued := fun _ => .inr (.inl (.inl hwritten)) }

/-! ## The whole system -/

/-- `is_stopping` is never reset. -/
theorem step_isStopping {s s' : State ι} {e : Event ι} (he : step s e = some s')
    (hs : s.isStopping = true) : s'.isStopping = true := by
  cases step_spec he with
  | callExternal | callCallback | callHandler => rfl
  | _ => exact hs

/-- One step of a system nobody has stopped preserves `Running`. -/
theorem running_step {s s' : State ι} {e : Event ι} (h : Running s)
    (hs : s.isStopping = false) (hs' : s'.isStopping = false) (hok : honestHandler s e)
    (he : step s e = some s') : Running s' := by
  have hstop := h.stop
  have hrunning := h.executor
  obtain ⟨hposted, haborted, hwork⟩ := h.noCancel
  cases step_spec he with
  | push p hp | ring p hp => exact running_enterRing h hp
  | exchange p hp => exact running_exchange h hp
  | write p hp => exact running_write h
  | read hwait hcounter => exact running_read h hwait
  | deliverReady hpc hready => exact running_deliverReady h hpc hready
  | completed hpc =>
    rw [if_neg (by simp [hs])]
    exact h.moveTo (by simp [hpc]) trivial (by simp) (fun _ => .inr trivial)
      fun _ => .inr (.inl (.inr trivial))
  | arming hpc =>
    -- from the arming exchange on, the handler has to look at the queue
    exact h.moveTo (by simp [hpc]) trivial (by simp) (fun harmed => by cases harmed)
      fun _ => .inr (.inr trivial)
  | disarming hpc =>
    -- work remains: the executor is about to ring for itself
    exact h.moveTo (by simp [hpc]) trivial (by simp) (fun _ => .inr trivial)
      fun _ => .inr (.inl (.inr trivial))
  | rewriting hpc => exact running_rewriting h hpc
  | checking hpc =>
    rw [if_neg (by simp [hs])]
    exact h.moveOn (by simp [hpc]) (by simp [hpc, ExecutorPc.WillRun]) trivial (by simp)
      (fun hlook => by simp [hpc, ExecutorPc.WillLook] at hlook) id
  | restarting hpc => exact running_restarting h hpc
  | drain sawEmpty hpc houtside hqueue =>
    refine h.moveOn (by simp [hpc]) (by simp [hpc, ExecutorPc.WillRun]) trivial (by simp)
      (fun hlook _ => ?_) fun _ => hqueue
    rwa [hpc] at hlook
  | seeEmpty sawEmpty hpc houtside hqueue =>
    exact h.moveOn (by simp [hpc]) (by simp [hpc, ExecutorPc.WillRun]) trivial (by simp)
      (fun _ hq => absurd hqueue (Nat.pos_iff_ne_zero.mp hq)) id
  | handlerReturn sawEmpty workRemains hpc houtside => exact running_handlerReturn h hpc hok
  -- the first step of stop() stores is_stopping
  | callExternal | callCallback | callHandler => cases hs'
  -- the other steps belong to a `stop()` that has been called
  | deliverAborted hpc hpending => omega
  | runCancel hpc hpending => omega
  | ignored hpc => rcases hpc with hpc | hpc <;> simp [hpc, ExecutorPc.IsRunning] at hrunning
  | cancelling hpc | callbackReturn hpc =>
    simp [hpc, ExecutorPc.IsRunning] at hrunning
  | posting caller hcalled | resetting caller hcalled | joining hcalled =>
    rw [hstop] at hcalled
    cases hcalled
  | exit hpc hnone =>
    have hgone : s.work = false := hnone.1
    rw [hwork] at hgone
    cases hgone

/-- Until `stop()` is called, no run loses a wake-up. -/
theorem running_of_reachable {s : State ι} (hr : Reachable (system ι) honestHandler s) :
    s.isStopping = false → Running s := by
  refine hr.invariant (I := fun s => s.isStopping = false → Running s) ?_ ?_
  · rintro _ ⟨s₀, h₀, rfl⟩ -
    exact running_init h₀
  · intro s e s' ih hok he hs'
    have hs : s.isStopping = false := by
      cases hb : s.isStopping with
      | false => rfl
      | true => exact absurd (step_isStopping he hb) (by simp [hs'])
    exact running_step (ih hs) hs hs' hok he

/-- **No lost wake-up.** In every reachable state that is not stopping: when
the executor waits on the doorbell, the eventfd counter is 0 and no producer is
between its push and the end of its `ring()`, the queue is empty. -/
theorem queue_empty_of_waiting {s : State ι} (hr : Reachable (system ι) honestHandler s)
    (hs : s.isStopping = false) (hwait : 0 < s.waiting) (hcounter : s.counter = 0)
    (hidle : ∀ p, s.producer p = .idle) : s.queue = 0 := by
  have h := running_of_reachable hr hs
  have hpolling : s.executor = .polling := by
    by_contra hne
    have := (h.noWait hne).1
    omega
  have hone := h.oneWait hpolling
  by_contra hq
  rcases h.queued (by omega) with ⟨p, hp⟩ | ((hc | hready | ⟨p, hp⟩) | hrun) | hlook
  · simp [hidle p] at hp
  · omega
  · omega
  · simp [hidle p] at hp
  · simp [hpolling, ExecutorPc.WillRun] at hrun
  · simp [hpolling, ExecutorPc.WillLook] at hlook

/-- The two producers of the examples. -/
def producer₁ : Fin 2 := 0

def producer₂ : Fin 2 := 1

/-- An executor with two producer threads, constructed and not started. -/
def constructed : State (Fin 2) where
  doorbellArmed := false
  isStopping := false
  counter := 0
  waiting := 0
  ready := 0
  aborted := 0
  cancelPosted := 0
  work := true
  executor := .polling
  stop := .notCalled
  producer := fun _ => .idle
  queue := 0

/-- An executor as its constructor leaves it. -/
theorem constructed_spec : Constructed constructed where
  armed := rfl
  stopping := ⟨rfl, rfl, rfl⟩
  counter := rfl
  waits := ⟨rfl, rfl, rfl⟩
  work := rfl
  executor := rfl
  producer := fun _ => by simp [constructed]
  queue := fun hq => absurd hq (by decide)

/-- Both producers push and ring; the handler drains one item, reports remaining
work, and drains the other in its second run. -/
def twoRings : List (Event (Fin 2)) :=
  [.push producer₁, .exchange producer₁, .push producer₂, .exchange producer₂,
    .write producer₁, .read, .deliverReady, .executor, .executor, .drain, .handlerReturn true,
    .executor, .executor, .executor, .executor, .read, .deliverReady, .executor, .executor,
    .drain, .seeEmpty, .handlerReturn false, .executor, .executor]

/-- Two producers ring, and the queue is empty when the executor waits again. -/
theorem queue_empty_after_twoRings :
    ∃ s, run (system (Fin 2)) honestHandler (setupDoorbell constructed) twoRings = some s ∧
      0 < s.waiting ∧ s.queue = 0 := by
  have hsome : ((run (system (Fin 2)) honestHandler (setupDoorbell constructed) twoRings).map
      fun s => (s.isStopping, s.waiting, s.counter, s.producer 0, s.producer 1)) =
      some (false, 1, 0, .idle, .idle) := by decide
  obtain ⟨s, hrun, hs⟩ := Option.map_eq_some_iff.mp hsome
  simp only [Prod.mk.injEq] at hs
  obtain ⟨hstopping, hwait, hcounter, h0, h1⟩ := hs
  have hinit : (system (Fin 2)).init (setupDoorbell constructed) :=
    ⟨constructed, constructed_spec, rfl⟩
  refine ⟨s, hrun, by omega, ?_⟩
  exact queue_empty_of_waiting ⟨_, hinit, Path.of_run twoRings hrun⟩ hstopping (by omega)
    hcounter fun p => match p with | 0 => h0 | 1 => h1

end CppComponents.Executor
