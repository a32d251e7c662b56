import Mathlib.Algebra.BigOperators.Group.Finset.Piecewise
import Mathlib.Algebra.Order.BigOperators.Group.Finset
import CppComponents.Executor.Stopping

/-!
# What ringing costs

A producer that won the exchange of `ring()` writes the eventfd some time later, perhaps
after many runs of the handler. So writes can pile up between two reads. What bounds them
is that the doorbell has to be armed before an exchange can win, and that only the
executor arms it, once a run: the eventfd counter, the producers that have yet to write
and the armed doorbell together are a potential that only the arming exchange and the
executor's own write can raise, and the next read takes the counter out of it.

`Load` is the part of the state these sums are about, `Load.Step` says what a step can do
to it, and `Tally` counts what has happened since `start()`.
-/

namespace CppComponents.Executor

open CppComponents.Transition

variable {ι : Type}

/-- Whether the producer has yet to write the eventfd. -/
def ProducerPc.writes : ProducerPc → Nat
  | .writing => 1
  | _ => 0

/-- How far the potential can be above the number of producers. -/
def ExecutorPc.headroom : ExecutorPc → Nat
  | .completed | .stopping | .arming => 1
  | .handler _ | .disarming | .rewriting => 2
  | _ => 3

/-- Whether the executor has read a wake-up and not begun the run, or has to write one. -/
def ExecutorPc.owes : ExecutorPc → Nat
  | .completed | .disarming | .rewriting => 1
  | _ => 0

/-- Whether the run has begun and the doorbell is not armed yet. -/
def ExecutorPc.arms : ExecutorPc → Nat
  | .arming => 1
  | _ => 0

/-! ## The load of the doorbell -/

/-- The eventfd counter, the producers that have yet to write it, whether the doorbell is
armed, the reads whose handler has not run, and where the executor is. -/
structure Load where
  counter : Nat
  writing : Nat
  armed : Nat
  ready : Nat
  executor : ExecutorPc

/-- The number of producers that have yet to write the eventfd. -/
def State.writing [Fintype ι] (s : State ι) : Nat := ∑ p, (s.producer p).writes

def State.load [Fintype ι] (s : State ι) : Load :=
  ⟨s.counter, s.writing, s.doorbellArmed.toNat, s.ready, s.executor⟩

/-- The event is neither a write of `ring()` nor the handler reporting remaining work. -/
def Event.IsQuiet : Event ι → Prop
  | .write _ | .handlerReturn true => False
  | _ => True

/-- One case for each thing a step can do to the load. -/
inductive Load.Step (l : Load) : Event ι → Load → Prop where
  | same (e : Event ι) (hquiet : e.IsQuiet) : Step l e l
  /-- an exchange that reads `true` makes the armed doorbell a write to come -/
  | exchange (p : ι) (writing armed : Nat) (hsum : writing + armed = l.writing + l.armed) :
    Step l (.exchange p) { l with writing := writing, armed := armed }
  | write (p : ι) (counter writing : Nat) (hwriting : writing + 1 = l.writing)
      (hcounter : counter ≤ l.counter + 1) :
    Step l (.write p) { l with counter := counter, writing := writing }
  | read (hcounter : 0 < l.counter) :
    Step l .read { l with counter := 0, ready := l.ready + 1 }
  | deliver (hpc : l.executor = .polling) (hready : 0 < l.ready) :
    Step l .deliverReady { l with ready := l.ready - 1, executor := .completed }
  | begin (hpc : l.executor = .completed) : Step l .executor { l with executor := .arming }
  | arm (hpc : l.executor = .arming) :
    Step l .executor { l with armed := 1, executor := .handler false }
  | again (sawEmpty : Bool) (hpc : l.executor = .handler sawEmpty) :
    Step l (.handlerReturn true) { l with executor := .disarming }
  | rewrite (counter : Nat) (hpc : l.executor = .rewriting) (hcounter : counter ≤ l.counter + 1) :
    Step l .executor { l with counter := counter, executor := .checking }
  /-- the other moves of the executor thread at most disarm the doorbell -/
  | moved (e : Event ι) (hquiet : e.IsQuiet) (pc : ExecutorPc) (armed : Nat)
      (harmed : armed ≤ l.armed) (hheadroom : l.executor.headroom ≤ pc.headroom)
      (howes : pc.owes ≤ l.executor.owes) (harms : pc.arms = 0) (harms' : l.executor.arms = 0) :
    Step l e { l with armed := armed, executor := pc }

theorem writeDoorbell_counter_le (s : State ι) :
    (writeDoorbell s).counter ≤ s.counter + 1 := by
  unfold writeDoorbell
  split
  · exact Nat.le_refl _
  · exact Nat.le_succ _

section

variable [Fintype ι] {s s' : State ι}

theorem writing_le_card (s : State ι) : s.writing ≤ Fintype.card ι := by
  have hone : ∀ p ∈ Finset.univ, (s.producer p).writes ≤ 1 := fun p _ => by
    cases s.producer p <;> simp [ProducerPc.writes]
  have hsum := Finset.sum_le_card_nsmul _ _ _ hone
  simpa [State.writing] using hsum

/-- The executor thread moves from `pc` to `pc'`, and writes nothing and arms nothing. -/
theorem load_moved {e : Event ι} {pc : ExecutorPc} (hpc : s.executor = pc) (pc' : ExecutorPc)
    (armed : Nat) (hquiet : e.IsQuiet)
    (hload : s'.load = { s.load with armed := armed, executor := pc' })
    (harmed : armed ≤ s.load.armed)
    (hfree : pc.headroom ≤ pc'.headroom ∧ pc'.owes ≤ pc.owes ∧ pc'.arms = 0 ∧ pc.arms = 0) :
    s.load.Step e s'.load := by
  obtain ⟨hheadroom, howes, harms, harms'⟩ := hpc ▸ hfree
  rw [hload]
  exact .moved e hquiet pc' armed harmed hheadroom howes harms harms'

variable [DecidableEq ι]

/-- A producer moves: its part of the sum changes. -/
theorem writing_setProducer (s : State ι) (p : ι) (pc : ProducerPc) :
    (s.setProducer p pc).writing + (s.producer p).writes = s.writing + pc.writes := by
  have hupdate : ∀ pc, (∑ q, (Function.update s.producer p pc q).writes) =
      pc.writes + ∑ q ∈ Finset.univ \ {p}, (s.producer q).writes := by
    intro pc
    have hcomp := Function.comp_update ProducerPc.writes s.producer p pc
    refine (Finset.sum_congr rfl fun q _ => congrFun hcomp q).trans ?_
    exact Finset.sum_update_of_mem (Finset.mem_univ p) _ _
  have hself := hupdate (s.producer p)
  rw [Function.update_eq_self] at hself
  have hmoved := hupdate pc
  show (∑ q, (Function.update s.producer p pc q).writes) + _ = (∑ q, (s.producer q).writes) + _
  omega

theorem load_enterRing {p : ι} (hidle : s.producer p = .idle) :
    (s.setProducer p .ringing).load = s.load := by
  have hmoved := writing_setProducer s p .ringing
  rw [hidle] at hmoved
  exact congrArg (fun n => { s.load with writing := n }) hmoved

/-- What one step does to the load. -/
theorem load_step {e : Event ι} (he : step s e = some s') : s.load.Step e s'.load := by
  cases step_spec he with
  -- a producer that starts to ring writes nothing yet
  | push p hidle | ring p hidle =>
    show s.load.Step _ (s.setProducer p .ringing).load
    rw [load_enterRing hidle]
    exact .same _ trivial
  | exchange p hringing =>
    have hmoved := writing_setProducer s p (if s.doorbellArmed then .writing else .idle)
    rw [hringing] at hmoved
    refine .exchange p (s.setProducer p _).writing 0 ?_
    have hpc : (if s.doorbellArmed then ProducerPc.writing else .idle).writes =
        s.doorbellArmed.toNat := by
      cases s.doorbellArmed <;> rfl
    rw [hpc] at hmoved
    exact hmoved
  | write p hwriting =>
    have hmoved := writing_setProducer s p .idle
    rw [hwriting] at hmoved
    exact .write p _ (s.setProducer p .idle).writing hmoved (writeDoorbell_counter_le s)
  | read hwait hcounter => exact .read hcounter
  | deliverReady hpc hready => exact .deliver hpc hready
  | deliverAborted hpc haborted =>
    exact load_moved hpc .failed s.load.armed trivial rfl (Nat.le_refl _) (by decide)
  | ignored hpc =>
    rcases hpc with hpc | hpc
    · exact load_moved hpc .polling 0 trivial rfl (Nat.zero_le _) (by decide)
    · exact load_moved hpc .polling 0 trivial rfl (Nat.zero_le _) (by decide)
  | completed hpc =>
    by_cases hstop : s.isStopping = true
    · rw [if_pos hstop]
      exact load_moved hpc .stopping s.load.armed trivial rfl (Nat.le_refl _) (by decide)
    · rw [if_neg hstop]
      exact .begin hpc
  | arming hpc => exact .arm hpc
  | disarming hpc => exact load_moved hpc .rewriting 0 trivial rfl (Nat.zero_le _) (by decide)
  | rewriting hpc => exact .rewrite _ hpc (writeDoorbell_counter_le s)
  | checking hpc =>
    refine load_moved hpc (if s.isStopping then .polling else .restarting) s.load.armed trivial rfl
      (Nat.le_refl _) ?_
    cases s.isStopping <;> decide
  | restarting hpc | cancelling hpc | callbackReturn hpc =>
    exact load_moved hpc .polling s.load.armed trivial rfl (Nat.le_refl _) (by decide)
  | drain sawEmpty hpc =>
    exact load_moved hpc (.handler sawEmpty) s.load.armed trivial rfl (Nat.le_refl _)
      ⟨Nat.le_refl _, Nat.le_refl _, rfl, rfl⟩
  | seeEmpty sawEmpty hpc =>
    exact load_moved hpc (.handler true) s.load.armed trivial rfl (Nat.le_refl _)
      ⟨Nat.le_refl _, Nat.le_refl _, rfl, rfl⟩
  -- with work left the executor writes the doorbell itself
  | handlerReturn sawEmpty workRemains hpc =>
    cases workRemains with
    | true => exact .again sawEmpty hpc
    | false =>
      exact load_moved hpc .checking s.load.armed trivial rfl (Nat.le_refl _)
        ⟨Nat.le_succ _, Nat.le_refl _, rfl, rfl⟩
  | callExternal | callHandler | posting | resetting | joining => exact .same _ trivial
  | callCallback hstop hpc =>
    exact load_moved hpc .callback s.load.armed trivial rfl (Nat.le_refl _) (by decide)
  | runCancel hpc hposted =>
    exact load_moved hpc .cancelling 0 trivial rfl (Nat.zero_le _) (by decide)
  | exit hpc hnone =>
    exact load_moved hpc .exited s.load.armed trivial rfl (Nat.le_refl _) (by decide)

end

/-! ## The bounds -/

/-- What has happened since `start()`. -/
structure Tally where
  /-- the writes of the eventfd by `ring()` -/
  ringWrites : Nat
  /-- the calls of `run_doorbell_handler()` that have begun -/
  runs : Nat
  /-- the runs of the doorbell handler -/
  handlerRuns : Nat
  /-- the runs that returned `true` -/
  again : Nat

def Event.isWrite : Event ι → Bool
  | .write _ => true
  | _ => false

def Event.isAgain : Event ι → Bool
  | .handlerReturn true => true
  | _ => false

/-- Count event `e`, which takes the executor from `pc` to `pc'`. A call of
`run_doorbell_handler()` begins when the executor gets to the arming exchange, and runs
the handler when it gets past it. -/
def Tally.next (n : Tally) (pc : ExecutorPc) (e : Event ι) (pc' : ExecutorPc) : Tally where
  ringWrites := n.ringWrites + e.isWrite.toNat
  runs := n.runs + (pc'.arms - pc.arms)
  handlerRuns := n.handlerRuns + (pc.arms - pc'.arms)
  again := n.again + e.isAgain.toNat

/-- How far the potential can be above the number of producers. A wake-up that has been
read, and whose handler has not run, has taken the counter out of it. -/
def Load.headroom (l : Load) : Nat := if 0 < l.ready then 1 else l.executor.headroom

/-- The bounds, for `P` producers. -/
structure Load.Bounded (P : Nat) (l : Load) (n : Tally) : Prop where
  counter : l.counter + l.writing + l.armed ≤ P + l.headroom
  /-- the doorbell is armed once a run, and each time for one write of `ring()` -/
  ringWrites : n.ringWrites + l.writing + l.armed + l.executor.arms ≤ 1 + n.runs
  /-- a run takes at least one write out of the counter -/
  runs : n.runs + l.ready + l.counter + l.executor.owes ≤ n.ringWrites + n.again
  handlerRuns : n.handlerRuns + l.executor.arms ≤ n.runs

section

variable {P : Nat} {l l' : Load} {n : Tally} {e : Event ι}

theorem Event.counts_of_isQuiet (hquiet : e.IsQuiet) : e.isWrite = false ∧ e.isAgain = false := by
  cases e with
  | write p => exact hquiet.elim
  | handlerReturn workRemains =>
    cases workRemains with
    | true => exact hquiet.elim
    | false => exact ⟨rfl, rfl⟩
  | _ => exact ⟨rfl, rfl⟩

/-- A quiet event that neither begins nor arms a run is not counted. -/
theorem Tally.next_quiet (n : Tally) {pc pc' : ExecutorPc} (hquiet : e.IsQuiet)
    (hpc : pc'.arms = pc.arms) : n.next pc e pc' = n := by
  obtain ⟨hwrite, hagain⟩ := Event.counts_of_isQuiet hquiet
  simp [Tally.next, hwrite, hagain, hpc]

namespace Load

/-- The potential's bound, once a wake-up has been read. -/
theorem headroom_of_ready (hready : 0 < l.ready) : l.headroom = 1 := if_pos hready

theorem headroom_of_not_ready (hready : l.ready = 0) : l.headroom = l.executor.headroom :=
  if_neg (by omega)

/-- The executor moves on to where the potential may be larger. -/
theorem headroom_mono (hready : l'.ready = l.ready)
    (hpc : l.executor.headroom ≤ l'.executor.headroom) : l.headroom ≤ l'.headroom := by
  unfold headroom
  rw [hready]
  split
  · exact Nat.le_refl 1
  · exact hpc

/-- One step keeps the bounds. -/
theorem Bounded.step (h : l.Bounded P n) (hproducers : l.writing ≤ P) (hflag : l.armed ≤ 1)
    (hone : l.ready + l.executor.waits ≤ 1) (hstep : l.Step e l') :
    l'.Bounded P (n.next l.executor e l'.executor) := by
  obtain ⟨hcounter, hringWrites, hruns, hhandlerRuns⟩ := h
  cases hstep with
  | same e hquiet =>
    rw [n.next_quiet hquiet rfl]
    exact ⟨hcounter, hringWrites, hruns, hhandlerRuns⟩
  | exchange p writing armed hsum =>
    rw [n.next_quiet (e := .exchange p) trivial rfl]
    constructor
    · show l.counter + writing + armed ≤ P + l.headroom
      omega
    · show n.ringWrites + writing + armed + l.executor.arms ≤ 1 + n.runs
      omega
    · exact hruns
    · exact hhandlerRuns
  | write p counter writing hwriting hwritten =>
    have hnext : n.next l.executor (.write p) l.executor =
        { n with ringWrites := n.ringWrites + 1 } := by
      simp [Tally.next, Event.isWrite, Event.isAgain]
    rw [hnext]
    constructor
    · show counter + writing + l.armed ≤ P + l.headroom
      omega
    · show n.ringWrites + 1 + writing + l.armed + l.executor.arms ≤ 1 + n.runs
      omega
    · show n.runs + l.ready + counter + l.executor.owes ≤ n.ringWrites + 1 + n.again
      omega
    · exact hhandlerRuns
  | read hpositive =>
    rw [n.next_quiet (e := .read) trivial rfl]
    constructor
    · -- the counter is out of the potential
      rw [headroom_of_ready (Nat.succ_pos _)]
      show 0 + l.writing + l.armed ≤ P + 1
      omega
    · exact hringWrites
    · show n.runs + (l.ready + 1) + 0 + l.executor.owes ≤ n.ringWrites + n.again
      omega
    · exact hhandlerRuns
  | deliver hpc hready =>
    rw [headroom_of_ready hready] at hcounter
    simp only [hpc, ExecutorPc.waits, ExecutorPc.arms, ExecutorPc.owes]
      at hone hringWrites hruns hhandlerRuns ⊢
    have hnext : n.next .polling (.deliverReady : Event ι) .completed = n :=
      n.next_quiet trivial rfl
    rw [hnext]
    have hlast : l.ready - 1 = 0 := by omega
    constructor
    · have hafter : headroom { l with ready := l.ready - 1, executor := .completed } = 1 :=
        headroom_of_not_ready hlast
      rw [hafter]
      exact hcounter
    · exact hringWrites
    · show n.runs + (l.ready - 1) + l.counter + 1 ≤ _
      omega
    · exact hhandlerRuns
  | begin hpc =>
    simp only [hpc, ExecutorPc.waits, ExecutorPc.arms, ExecutorPc.owes]
      at hone hringWrites hruns hhandlerRuns ⊢
    have hnone : l.ready = 0 := by omega
    rw [headroom_of_not_ready hnone, hpc] at hcounter
    constructor
    · have hafter : headroom { l with executor := .arming } = 1 := headroom_of_not_ready hnone
      rw [hafter]
      exact hcounter
    · show n.ringWrites + l.writing + l.armed + 1 ≤ 1 + (n.runs + 1)
      omega
    · show n.runs + 1 + l.ready + l.counter + 0 ≤ n.ringWrites + n.again
      omega
    · show n.handlerRuns + 0 + 1 ≤ n.runs + 1
      omega
  | arm hpc =>
    -- the arming exchange: the doorbell may have been armed before
    simp only [hpc, ExecutorPc.waits, ExecutorPc.arms, ExecutorPc.owes]
      at hone hringWrites hruns hhandlerRuns ⊢
    have hnone : l.ready = 0 := by omega
    rw [headroom_of_not_ready hnone, hpc, ExecutorPc.headroom] at hcounter
    constructor
    · have hafter : headroom { l with armed := 1, executor := .handler false } = 2 :=
        headroom_of_not_ready hnone
      rw [hafter]
      show l.counter + l.writing + 1 ≤ P + 2
      omega
    · show n.ringWrites + l.writing + 1 + 0 ≤ 1 + n.runs
      omega
    · exact hruns
    · show n.handlerRuns + 1 + 0 ≤ n.runs
      omega
  | again sawEmpty hpc =>
    simp only [hpc, ExecutorPc.waits, ExecutorPc.arms, ExecutorPc.owes]
      at hone hringWrites hruns hhandlerRuns ⊢
    have hnone : l.ready = 0 := by omega
    rw [headroom_of_not_ready hnone, hpc] at hcounter
    constructor
    · have hafter : headroom { l with executor := .disarming } = 2 := headroom_of_not_ready hnone
      rw [hafter]
      exact hcounter
    · exact hringWrites
    · show n.runs + l.ready + l.counter + 1 ≤ n.ringWrites + (n.again + 1)
      omega
    · exact hhandlerRuns
  | rewrite counter hpc hwritten =>
    simp only [hpc, ExecutorPc.waits, ExecutorPc.arms, ExecutorPc.owes]
      at hone hringWrites hruns hhandlerRuns ⊢
    have hnone : l.ready = 0 := by omega
    rw [headroom_of_not_ready hnone, hpc, ExecutorPc.headroom] at hcounter
    have hnext : n.next .rewriting (.executor : Event ι) .checking = n := n.next_quiet trivial rfl
    rw [hnext]
    constructor
    · have hafter : headroom { l with counter := counter, executor := .checking } = 3 :=
        headroom_of_not_ready hnone
      rw [hafter]
      show counter + l.writing + l.armed ≤ P + 3
      omega
    · exact hringWrites
    · show n.runs + l.ready + counter + 0 ≤ n.ringWrites + n.again
      omega
    · exact hhandlerRuns
  | moved e hquiet pc armed harmed hheadroom howes harms harms' =>
    rw [n.next_quiet hquiet (harms.trans harms'.symm)]
    have hmore : l.headroom ≤ headroom { l with armed := armed, executor := pc } :=
      headroom_mono rfl hheadroom
    constructor
    · show l.counter + l.writing + armed ≤ P + headroom _
      omega
    · show n.ringWrites + l.writing + armed + pc.arms ≤ 1 + n.runs
      omega
    · show n.runs + l.ready + l.counter + pc.owes ≤ n.ringWrites + n.again
      omega
    · show n.handlerRuns + pc.arms ≤ n.runs
      omega

end Load

end

/-! ## The whole system -/

/-- The executor, and what has happened since `start()`. -/
def tallied (ι : Type) [DecidableEq ι] : System (State ι × Tally) (Event ι) :=
  (system ι).record ⟨0, 0, 0, 0⟩ fun n s e s' => n.next s.executor e s'.executor

variable [Fintype ι]

theorem bounded_init {s₀ : State ι} (h : Constructed s₀) :
    (setupDoorbell s₀).load.Bounded (Fintype.card ι) ⟨0, 0, 0, 0⟩ := by
  have hwriting : (setupDoorbell s₀).writing = 0 := by
    refine Finset.sum_eq_zero fun p _ => ?_
    have hp := h.producer p
    show (s₀.producer p).writes = 0
    cases hpc : s₀.producer p with
    | writing => exact absurd hpc hp
    | _ => rfl
  have hload : (setupDoorbell s₀).load = ⟨0, 0, 1, 0, .polling⟩ := by
    unfold State.load
    rw [hwriting]
    simp [setupDoorbell, startDoorbellWait, h.counter, h.waits, h.executor]
  rw [hload]
  constructor
  · show 0 + 0 + 1 ≤ Fintype.card ι + 3
    omega
  · exact Nat.le_refl 1
  · exact Nat.le_refl 0
  · exact Nat.le_refl 0

variable [DecidableEq ι]

theorem bounded_of_reachable {s : State ι} {n : Tally} (hr : Reachable (tallied ι) anyStep (s, n)) :
    CleanStop s ∧ s.load.Bounded (Fintype.card ι) n := by
  have hr : Reachable (tallied ι) (fun p e => anyStep p.1 e) (s, n) := hr
  refine hr.record_invariant
    (I := fun s n => CleanStop s ∧ s.load.Bounded (Fintype.card ι) n) ?_ ?_
  · rintro s ⟨s₀, h₀, rfl⟩
    exact ⟨cleanStop_init h₀, bounded_init h₀⟩
  · rintro s n e s' ⟨hclean, hbounded⟩ - hstep
    have hone : s.ready + s.executor.waits ≤ 1 := by
      have := hclean.oneWait
      omega
    have hflag : s.doorbellArmed.toNat ≤ 1 := Bool.toNat_le _
    exact ⟨cleanStop_step hclean hstep,
      hbounded.step (writing_le_card s) hflag hone (load_step hstep)⟩

/-- **Ringing is bounded.** For any number of producers, any interleaving and whatever
the handler returns, in every reachable state:

- the eventfd counter is at most three above the number of producers, so that a thread
  that is about to write the eventfd has room to, unless there are about `2 ^ 64` of them;
- `ring()` has written the eventfd at most once for each run that has begun, and once;
- the handler has not run more often than `ring()` has written the eventfd and a run has
  returned `true`. -/
theorem ringing_is_bounded {s : State ι} {n : Tally} (hr : Reachable (tallied ι) anyStep (s, n)) :
    s.counter ≤ Fintype.card ι + 3 ∧
    (Fintype.card ι + 3 ≤ eventfdMax → (∃ p, s.producer p = .writing) ∨ s.executor = .rewriting →
      (writeDoorbell s).counter = s.counter + 1) ∧
    n.ringWrites ≤ 1 + n.runs ∧
    n.handlerRuns ≤ n.ringWrites + n.again := by
  obtain ⟨hclean, hcounter, hringWrites, hruns, hhandlerRuns⟩ := bounded_of_reachable hr
  have hcounter : s.counter + s.writing + s.doorbellArmed.toNat ≤
      Fintype.card ι + s.load.headroom := hcounter
  have hheadroom : s.load.headroom ≤ 3 := by
    unfold Load.headroom
    split
    · omega
    · cases s.load.executor <;> simp [ExecutorPc.headroom]
  refine ⟨by omega, fun hmax hwrites => ?_, by omega, by omega⟩
  refine congrArg State.counter (if_pos ?_)
  rcases hwrites with ⟨p, hp⟩ | hpc
  · -- the write to come is in the potential
    have hle : (s.producer p).writes ≤ s.writing :=
      Finset.single_le_sum (f := fun p => (s.producer p).writes) (fun _ _ => Nat.zero_le _)
        (Finset.mem_univ p)
    rw [hp, ProducerPc.writes] at hle
    omega
  · have hnone : s.ready = 0 := by
      have := hclean.oneWait
      simp only [hpc, ExecutorPc.waits] at this
      omega
    have htwo : s.load.headroom = s.executor.headroom := Load.headroom_of_not_ready hnone
    rw [htwo, hpc, ExecutorPc.headroom] at hcounter
    omega

/-- Producer 1 wins an exchange while the executor still runs the handler for producer 0,
and has not written yet when the executor, which has rung for itself, waits again. -/
def lateWrite : List (Event (Fin 2)) :=
  [.push producer₁, .exchange producer₁, .write producer₁, .read, .deliverReady, .executor,
    .executor, .push producer₂, .exchange producer₂, .handlerReturn true, .executor, .executor,
    .executor, .executor]

theorem ringing_is_bounded_lateWrite :
    ∃ (s : State (Fin 2)) (n : Tally), Reachable (tallied (Fin 2)) anyStep (s, n) ∧
      s.producer 1 = .writing ∧ s.counter = 1 ∧ (writeDoorbell s).counter = 2 ∧
      n.ringWrites ≤ 1 + n.runs ∧ n.handlerRuns ≤ n.ringWrites + n.again := by
  have hran : (run (tallied (Fin 2)) anyStep (setupDoorbell constructed, ⟨0, 0, 0, 0⟩)
      lateWrite).map (fun p => (p.1.producer 1, p.1.counter)) = some (.writing, 1) := by decide
  obtain ⟨⟨s, n⟩, hrun, hs⟩ := Option.map_eq_some_iff.mp hran
  obtain ⟨hwriting, hcounter⟩ := Prod.mk.inj hs
  have hr : Reachable (tallied (Fin 2)) anyStep (s, n) :=
    ⟨_, ⟨⟨constructed, constructed_spec, rfl⟩, rfl⟩, Path.of_run lateWrite hrun⟩
  obtain ⟨-, hroom, hringWrites, hhandlerRuns⟩ := ringing_is_bounded hr
  have hwritten := hroom (by decide) (.inl ⟨1, hwriting⟩)
  have hcounter : s.counter = 1 := hcounter
  rw [hcounter] at hwritten
  exact ⟨s, n, hr, hwriting, hcounter, hwritten, hringWrites, hhandlerRuns⟩

end CppComponents.Executor
