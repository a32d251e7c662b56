import CppComponents.SteadyTimer

/-!
# Sockets with asynchronous waits

A socket has a descriptor while it is open, and any number of asynchronous waits
for it to become readable or writable. A wait is one-shot: it is *armed* until
the descriptor is ready in its direction; then it is *fired*: its handler is
queued with success. `cancel`, and `close`, abort the armed waits, which does
not recall those that have fired. A wait on a closed socket fails.
-/

namespace CppComponents

inductive Direction where
  | read
  | write
  deriving DecidableEq, Repr

/-- A wait whose handler has not run. -/
structure SocketWait where
  direction : Direction
  status : WaitStatus
  deriving DecidableEq, Repr

structure TcpSocket where
  fd : Nat
  isOpen : Bool
  waits : List SocketWait
  deriving DecidableEq, Repr

namespace TcpSocket

/-- `cancel()`, on one wait. -/
def abort (w : SocketWait) : SocketWait :=
  if w.status = .armed then { w with status := .aborted } else w

def cancel (s : TcpSocket) : TcpSocket := { s with waits := s.waits.map abort }

def close (s : TcpSocket) : TcpSocket := { s.cancel with isOpen := false }

def asyncWait (s : TcpSocket) (direction : Direction) : TcpSocket :=
  { s with waits := s.waits ++ [⟨direction, if s.isOpen then .armed else .aborted⟩] }

/-- The descriptor is ready for an armed wait. -/
def fire (s : TcpSocket) (direction : Direction) : Option TcpSocket :=
  if ⟨direction, .armed⟩ ∈ s.waits then
    some { s with waits := s.waits.erase ⟨direction, .armed⟩ ++ [⟨direction, .fired⟩] }
  else none

/-- The handler of a wait is about to run. -/
def deliver (s : TcpSocket) (w : SocketWait) : Option TcpSocket :=
  if w ∈ s.waits ∧ w.status ≠ .armed then some { s with waits := s.waits.erase w } else none

/-! ## Armed and live waits -/

/-- How many waits in a direction are armed. -/
def armed (s : TcpSocket) (direction : Direction) : Nat := s.waits.count ⟨direction, .armed⟩

def isArmed (s : TcpSocket) (direction : Direction) : Bool := 0 < s.armed direction

/-- A wait in the direction is armed or has fired. -/
def Live (s : TcpSocket) (direction : Direction) : Prop :=
  ⟨direction, .armed⟩ ∈ s.waits ∨ ⟨direction, .fired⟩ ∈ s.waits

theorem abort_ne_armed (w : SocketWait) (direction : Direction) :
    abort w ≠ ⟨direction, .armed⟩ := by
  unfold abort
  split
  · simp
  · rename_i hstatus
    rintro rfl
    exact hstatus rfl

@[simp] theorem armed_cancel (s : TcpSocket) (direction : Direction) :
    s.cancel.armed direction = 0 := by
  refine List.count_eq_zero.mpr fun hmem => ?_
  obtain ⟨w, -, hw⟩ := List.mem_map.mp hmem
  exact abort_ne_armed w direction hw

@[simp] theorem armed_close (s : TcpSocket) (direction : Direction) :
    s.close.armed direction = 0 := s.armed_cancel direction

theorem armed_asyncWait (s : TcpSocket) (direction other : Direction) :
    (s.asyncWait other).armed direction =
      s.armed direction + if s.isOpen = true ∧ other = direction then 1 else 0 := by
  unfold armed asyncWait
  rw [List.count_append]
  congr 1
  cases s.isOpen <;> cases other <;> cases direction <;> rfl

@[simp] theorem fd_cancel (s : TcpSocket) : s.cancel.fd = s.fd := rfl
@[simp] theorem fd_close (s : TcpSocket) : s.close.fd = s.fd := rfl
@[simp] theorem fd_asyncWait (s : TcpSocket) (d : Direction) : (s.asyncWait d).fd = s.fd := rfl
@[simp] theorem isOpen_cancel (s : TcpSocket) : s.cancel.isOpen = s.isOpen := rfl
@[simp] theorem isOpen_close (s : TcpSocket) : s.close.isOpen = false := rfl
@[simp] theorem isOpen_asyncWait (s : TcpSocket) (d : Direction) :
    (s.asyncWait d).isOpen = s.isOpen := rfl

theorem fire_eq_some {s s' : TcpSocket} {direction : Direction} (h : s.fire direction = some s') :
    0 < s.armed direction ∧
      s' = { s with waits := s.waits.erase ⟨direction, .armed⟩ ++ [⟨direction, .fired⟩] } := by
  unfold fire at h
  split at h
  · rename_i hw
    cases h
    exact ⟨List.count_pos_iff.mpr hw, rfl⟩
  · cases h

theorem deliver_eq_some {s s' : TcpSocket} {w : SocketWait} (h : s.deliver w = some s') :
    w ∈ s.waits ∧ w.status ≠ .armed ∧ s' = { s with waits := s.waits.erase w } := by
  unfold deliver at h
  split at h
  · rename_i hw
    cases h
    exact ⟨hw.1, hw.2, rfl⟩
  · cases h

theorem armed_fire_le {s s' : TcpSocket} {direction : Direction} (h : s.fire direction = some s')
    (other : Direction) : s'.armed other ≤ s.armed other := by
  obtain ⟨-, rfl⟩ := fire_eq_some h
  have hsub : (s.waits.erase ⟨direction, .armed⟩).Sublist s.waits := List.erase_sublist
  show (s.waits.erase _ ++ [_]).count _ ≤ s.waits.count _
  rw [List.count_append, List.count_singleton]
  simpa using hsub.count_le ⟨other, .armed⟩

/-- A firing wait stays live. -/
theorem Live.fire {s s' : TcpSocket} {direction other : Direction} (hl : s.Live other)
    (h : s.fire direction = some s') : s'.Live other := by
  obtain ⟨-, rfl⟩ := fire_eq_some h
  rcases hl with harmed | hfired
  · by_cases hd : other = direction
    · subst hd
      exact .inr (List.mem_append_right _ (List.mem_singleton.mpr rfl))
    · refine .inl (List.mem_append_left _ ((List.mem_erase_of_ne ?_).mpr harmed))
      simpa using hd
  · exact .inr (List.mem_append_left _ ((List.mem_erase_of_ne (by simp)).mpr hfired))

/-- Running the handler of a wait leaves the armed ones. -/
theorem armed_deliver {s s' : TcpSocket} {w : SocketWait} (h : s.deliver w = some s')
    (direction : Direction) : s'.armed direction = s.armed direction := by
  obtain ⟨-, hw, rfl⟩ := deliver_eq_some h
  refine List.count_erase_of_ne ?_
  rintro rfl
  exact hw rfl

/-- Running the handler of an aborted wait, or of one in the other direction,
leaves what is live. -/
theorem Live.deliver {s s' : TcpSocket} {w : SocketWait} {direction : Direction}
    (hl : s.Live direction) (h : s.deliver w = some s') (hw : w ≠ ⟨direction, .fired⟩) :
    s'.Live direction := by
  obtain ⟨-, hstatus, rfl⟩ := deliver_eq_some h
  refine hl.imp (fun harmed => ?_) (fun hfired => ?_)
  · refine (List.mem_erase_of_ne ?_).mpr harmed
    rintro rfl
    exact hstatus rfl
  · exact (List.mem_erase_of_ne (Ne.symm hw)).mpr hfired

end TcpSocket

end CppComponents
