import CppComponents.Transition
import Mathlib.Data.List.Perm.Basic

/-!
# An event loop that one thread runs

An event loop has handlers that are ready to run and operations that are pending:
when one completes, its handler becomes ready. The thread that runs the loop takes
a ready handler, any of them, runs it to its end and takes the next. The loop
stops for good when it is told to, or when it has run out of work: nothing is
ready, pending or running, and the *work guard* that keeps an idle loop going has
been released. A handler that becomes ready after that never runs.

An `IoContext` keeps account of its handlers and carries the proof that the
account is right, so every event loop a program can build has it: what became
ready has begun or is still ready, nothing becomes late before the loop has
stopped, and a loop that ran out of work has only late handlers left. `η` is what
tells handlers apart; equal handlers are counted.
-/

namespace CppComponents

structure IoContext (η : Type) where
  ready : List η
  pending : List η
  running : Option η
  /-- the work guard -/
  work : Bool
  stopped : Bool
  /-- the handlers that have become ready, those that have begun, and those that
  became ready when the loop had stopped -/
  accepted : List η
  begun : List η
  late : List η
  /-- it was told to stop before it had run out of work -/
  cutShort : Bool
  conserved : accepted.Perm (begun ++ ready)
  ranOut : stopped = true → cutShort = false →
    work = false ∧ running = none ∧ ready = late
  notStopped : stopped = false → late = [] ∧ cutShort = false

namespace IoContext

variable {η : Type}

/-- A loop with a work guard and nothing to do. -/
def create (η : Type) : IoContext η where
  ready := []
  pending := []
  running := none
  work := true
  stopped := false
  accepted := []
  begun := []
  late := []
  cutShort := false
  conserved := .nil
  ranOut := fun h => by cases h
  notStopped := fun _ => ⟨rfl, rfl⟩

def OutOfWork (io : IoContext η) : Prop :=
  io.work = false ∧ io.ready = [] ∧ io.pending = [] ∧ io.running = none

instance (io : IoContext η) : Decidable io.OutOfWork := inferInstanceAs (Decidable (_ ∧ _))

/-- Handlers become ready. -/
def postAll (io : IoContext η) (hs : List η) : IoContext η :=
  { io with
    ready := io.ready ++ hs
    accepted := io.accepted ++ hs
    late := if io.stopped then io.late ++ hs else io.late
    conserved := by
      rw [← List.append_assoc]
      exact io.conserved.append_right hs
    ranOut := fun hstopped hshort => by
      obtain ⟨hwork, hrunning, hready⟩ := io.ranOut hstopped hshort
      refine ⟨hwork, hrunning, ?_⟩
      rw [if_pos hstopped, hready]
    notStopped := fun hstopped => by
      rw [hstopped]
      exact io.notStopped hstopped }

def post (io : IoContext η) (h : η) : IoContext η := io.postAll [h]

/-- An operation is started. -/
def initiate (io : IoContext η) (op : η) : IoContext η := { io with pending := io.pending ++ [op] }

/-- Every pending operation that `p` picks is cancelled: its handler `f op` becomes ready. -/
def cancel (io : IoContext η) (p : η → Bool) (f : η → η) : IoContext η :=
  { io.postAll ((io.pending.filter p).map f) with pending := io.pending.filter fun op => !p op }

variable [DecidableEq η]

/-- The operation `op` completes: its handler becomes ready, as `h`. -/
def complete (io : IoContext η) (op h : η) : IoContext η :=
  { io.post h with pending := io.pending.erase op }

/-- The thread takes a ready handler. -/
def runOne (io : IoContext η) (h : η) : Option (IoContext η) :=
  if hok : io.running = none ∧ io.stopped = false ∧ h ∈ io.ready then
    some { io with
      ready := io.ready.erase h
      running := some h
      begun := io.begun ++ [h]
      conserved := by
        rw [List.append_assoc]
        exact io.conserved.trans (.append_left _ (List.perm_cons_erase hok.2.2))
      ranOut := fun hstopped => by simp [hok.2.1] at hstopped
      notStopped := io.notStopped }
  else none

omit [DecidableEq η]

/-- A loop that has run out of work stops. -/
def settle (io : IoContext η) : IoContext η :=
  if hok : io.stopped = false ∧ io.OutOfWork then
    { io with
      stopped := true
      ranOut := fun _ _ => by
        obtain ⟨hstopped, hwork, hready, -, hrunning⟩ := hok
        exact ⟨hwork, hrunning, hready.trans (io.notStopped hstopped).1.symm⟩
      notStopped := fun h => by cases h }
  else io

/-- The handler that runs returns. -/
def finish (io : IoContext η) : IoContext η :=
  settle { io with
    running := none
    ranOut := fun hstopped hshort => by
      obtain ⟨hwork, -, hready⟩ := io.ranOut hstopped hshort
      exact ⟨hwork, rfl, hready⟩ }

/-- The work guard is released. -/
def resetWork (io : IoContext η) : IoContext η :=
  settle { io with
    work := false
    ranOut := fun hstopped hshort => by
      obtain ⟨-, hrunning, hready⟩ := io.ranOut hstopped hshort
      exact ⟨rfl, hrunning, hready⟩ }

/-- The loop is told to stop. -/
def stop (io : IoContext η) : IoContext η :=
  if io.stopped then io
  else
    { io with
      stopped := true
      cutShort := true
      ranOut := fun _ h => by cases h
      notStopped := fun h => by cases h }

/-! ## What each operation changes -/

section Fields

variable (io : IoContext η)

@[simp] theorem ready_settle : io.settle.ready = io.ready := by
  unfold settle
  split <;> rfl

@[simp] theorem pending_settle : io.settle.pending = io.pending := by
  unfold settle
  split <;> rfl

@[simp] theorem running_settle : io.settle.running = io.running := by
  unfold settle
  split <;> rfl

@[simp] theorem work_settle : io.settle.work = io.work := by
  unfold settle
  split <;> rfl

@[simp] theorem begun_settle : io.settle.begun = io.begun := by
  unfold settle
  split <;> rfl

@[simp] theorem cutShort_settle : io.settle.cutShort = io.cutShort := by
  unfold settle
  split <;> rfl

/-- Settling stops a context that has run out of work, and no other. -/
theorem stopped_settle : io.settle.stopped = true ↔ io.stopped = true ∨ io.OutOfWork := by
  unfold settle
  split
  · rename_i hok
    exact ⟨fun _ => .inr hok.2, fun _ => rfl⟩
  · rename_i hok
    refine ⟨.inl, fun h => ?_⟩
    rcases h with h | h
    · exact h
    · exact (Bool.eq_false_or_eq_true _).resolve_right fun hstopped => hok ⟨hstopped, h⟩

@[simp] theorem ready_finish : io.finish.ready = io.ready := ready_settle _

@[simp] theorem pending_finish : io.finish.pending = io.pending := pending_settle _

@[simp] theorem running_finish : io.finish.running = none := running_settle _

@[simp] theorem work_finish : io.finish.work = io.work := work_settle _

@[simp] theorem begun_finish : io.finish.begun = io.begun := begun_settle _

@[simp] theorem cutShort_finish : io.finish.cutShort = io.cutShort := cutShort_settle _

theorem stopped_finish : io.finish.stopped = true ↔
    io.stopped = true ∨ io.work = false ∧ io.ready = [] ∧ io.pending = [] := by
  rw [finish, stopped_settle]
  simp [OutOfWork]

@[simp] theorem ready_resetWork : io.resetWork.ready = io.ready := ready_settle _

@[simp] theorem pending_resetWork : io.resetWork.pending = io.pending := pending_settle _

@[simp] theorem running_resetWork : io.resetWork.running = io.running := running_settle _

@[simp] theorem work_resetWork : io.resetWork.work = false := work_settle _

@[simp] theorem begun_resetWork : io.resetWork.begun = io.begun := begun_settle _

@[simp] theorem cutShort_resetWork : io.resetWork.cutShort = io.cutShort := cutShort_settle _

theorem stopped_resetWork : io.resetWork.stopped = true ↔
    io.stopped = true ∨ io.ready = [] ∧ io.pending = [] ∧ io.running = none := by
  rw [resetWork, stopped_settle]
  simp [OutOfWork]

@[simp] theorem ready_stop : io.stop.ready = io.ready := by
  unfold stop
  split <;> rfl

@[simp] theorem pending_stop : io.stop.pending = io.pending := by
  unfold stop
  split <;> rfl

@[simp] theorem running_stop : io.stop.running = io.running := by
  unfold stop
  split <;> rfl

@[simp] theorem work_stop : io.stop.work = io.work := by
  unfold stop
  split <;> rfl

@[simp] theorem begun_stop : io.stop.begun = io.begun := by
  unfold stop
  split <;> rfl

@[simp] theorem stopped_stop : io.stop.stopped = true := by
  unfold stop
  split
  · assumption
  · rfl

end Fields

/-! ## A loop out of work has stopped -/

/-- Nothing is left to do only when the loop has stopped. -/
def Settled (io : IoContext η) : Prop := io.OutOfWork → io.stopped = true

theorem settled_create : (create η).Settled := nofun

theorem settled_post (io : IoContext η) (h : η) : (io.post h).Settled :=
  fun hout => absurd hout.2.1 (by simp [post, postAll])

theorem settled_initiate (io : IoContext η) (op : η) : (io.initiate op).Settled :=
  fun hout => absurd hout.2.2.1 (by simp [initiate])

theorem settled_complete [DecidableEq η] (io : IoContext η) (op h : η) :
    (io.complete op h).Settled :=
  fun hout => absurd hout.2.1 (by simp [complete, post, postAll])

theorem settled_finish (io : IoContext η) : io.finish.Settled := by
  rintro ⟨hwork, hready, hpending, -⟩
  rw [stopped_finish]
  exact .inr ⟨by simpa using hwork, by simpa using hready, by simpa using hpending⟩

theorem settled_resetWork (io : IoContext η) : io.resetWork.Settled := by
  rintro ⟨-, hready, hpending, hrunning⟩
  rw [stopped_resetWork]
  exact .inr ⟨by simpa using hready, by simpa using hpending, by simpa using hrunning⟩

theorem settled_stop (io : IoContext η) : io.stop.Settled := fun _ => io.stopped_stop

/-- A handler that is ready can be taken while the loop runs no other. -/
theorem exists_runOne [DecidableEq η] {io : IoContext η} {h : η} (hrunning : io.running = none)
    (hstopped : io.stopped = false) (hready : h ∈ io.ready) : ∃ io', io.runOne h = some io' :=
  ⟨_, dif_pos ⟨hrunning, hstopped, hready⟩⟩

/-- What a handler that was taken tells about the loop it was taken from. -/
theorem runOne_eq_some [DecidableEq η] {io io' : IoContext η} {h : η}
    (hrun : io.runOne h = some io') :
    io.running = none ∧ io.stopped = false ∧ h ∈ io.ready ∧
      io'.ready = io.ready.erase h ∧ io'.pending = io.pending ∧ io'.running = some h ∧
      io'.work = io.work ∧ io'.stopped = false ∧ io'.begun = io.begun ++ [h] ∧
      io'.cutShort = io.cutShort := by
  unfold runOne at hrun
  split at hrun
  · rename_i hok
    cases hrun
    exact ⟨hok.1, hok.2.1, hok.2.2, rfl, rfl, rfl, rfl, hok.2.1, rfl, rfl⟩
  · cases hrun

/-- **Nothing is lost.** Every handler that became ready has begun or is still ready. -/
theorem count_begun [DecidableEq η] (io : IoContext η) (h : η) :
    io.accepted.count h = io.begun.count h + io.ready.count h := by
  rw [io.conserved.count_eq, List.count_append]

/-- **A loop that ran out of work has run everything.** All that became ready before it
stopped has begun. -/
theorem begun_of_ranOut (io : IoContext η) (hstopped : io.stopped = true)
    (hshort : io.cutShort = false) : io.accepted.Perm (io.begun ++ io.late) := by
  rw [← (io.ranOut hstopped hshort).2.2]
  exact io.conserved

end IoContext

end CppComponents
