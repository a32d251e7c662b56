import Mathlib.Data.List.Basic

/-!
# Timers with asynchronous waits

A timer has one expiry and any number of asynchronous waits. A wait is *armed*
until the clock reaches the expiry it was started for; then it is *fired*: its
handler is queued with success. Setting a new expiry, or `cancel`, aborts the
armed waits: their handlers are queued with `operation_aborted`. Neither
recalls a wait that has fired.

`κ` is what the handler of a wait carries. Which waits a component has left is
stated through `armed` and `live` (armed or fired).
-/

namespace CppComponents

inductive WaitStatus where
  | armed
  | fired
  | aborted
  deriving DecidableEq, Repr

/-- A wait whose handler has not run. -/
structure Wait (κ : Type) where
  expiry : Int
  status : WaitStatus
  tag : κ
  deriving DecidableEq, Repr

structure SteadyTimer (κ : Type) where
  expiry : Int
  waits : List (Wait κ)

namespace SteadyTimer

variable {κ : Type}

/-- `cancel()`, on one wait. -/
def abort (w : Wait κ) : Wait κ :=
  if w.status = .armed then { w with status := .aborted } else w

def cancel (t : SteadyTimer κ) : SteadyTimer κ :=
  { t with waits := t.waits.map abort }

/-- `expires_at(time)`; `expires_after(d)` is `expiresAt (now + d)`. -/
def expiresAt (t : SteadyTimer κ) (time : Int) : SteadyTimer κ :=
  { t.cancel with expiry := time }

def asyncWait (t : SteadyTimer κ) (tag : κ) : SteadyTimer κ :=
  { t with waits := t.waits ++ [⟨t.expiry, .armed, tag⟩] }

variable [DecidableEq κ]

/-- The clock reaches the expiry of an armed wait. -/
def fire (t : SteadyTimer κ) (w : Wait κ) (now : Int) : Option (SteadyTimer κ) :=
  if w ∈ t.waits ∧ w.status = .armed ∧ w.expiry ≤ now then
    some { t with waits := t.waits.erase w ++ [{ w with status := .fired }] }
  else none

/-- The handler of a wait is about to run. -/
def deliver (t : SteadyTimer κ) (w : Wait κ) : Option (SteadyTimer κ) :=
  if w ∈ t.waits ∧ w.status ≠ .armed then some { t with waits := t.waits.erase w } else none

omit [DecidableEq κ]

/-! ## Armed and live waits -/

/-- The armed waits. -/
def armed (t : SteadyTimer κ) : List (Wait κ) := t.waits.filter (·.status = .armed)

/-- The waits that will run with success unless they are cancelled first. -/
def live (t : SteadyTimer κ) : List (Wait κ) := t.waits.filter (·.status ≠ .aborted)

theorem abort_status_ne (w : Wait κ) : (abort w).status ≠ .armed := by
  unfold abort
  split
  · simp
  · assumption

@[simp] theorem armed_cancel (t : SteadyTimer κ) : t.cancel.armed = [] := by
  rw [armed, cancel, List.filter_eq_nil_iff]
  intro w hw
  obtain ⟨v, -, rfl⟩ := List.mem_map.mp hw
  simpa using abort_status_ne v

@[simp] theorem armed_expiresAt (t : SteadyTimer κ) (time : Int) :
    (t.expiresAt time).armed = [] := t.armed_cancel

@[simp] theorem armed_asyncWait (t : SteadyTimer κ) (tag : κ) :
    (t.asyncWait tag).armed = t.armed ++ [⟨t.expiry, .armed, tag⟩] := by
  simp [armed, asyncWait]

theorem armed_subset_waits {t : SteadyTimer κ} {w : Wait κ} (h : w ∈ t.armed) :
    w ∈ t.waits := (List.mem_filter.mp h).1

/-- Without an armed wait there is nothing to cancel. -/
theorem cancel_of_armed_eq_nil {t : SteadyTimer κ} (h : t.armed = []) : t.cancel = t := by
  have hid : ∀ w ∈ t.waits, abort w = w := by
    intro w hw
    have hst := List.filter_eq_nil_iff.mp h w hw
    exact if_neg (by simpa using hst)
  rw [cancel, List.map_congr_left hid, List.map_id']

@[simp] theorem live_asyncWait (t : SteadyTimer κ) (tag : κ) :
    (t.asyncWait tag).live = t.live ++ [⟨t.expiry, .armed, tag⟩] := by
  simp [live, asyncWait]

/-- A wait of the cancelled timer carries what a wait of the timer carried. -/
theorem exists_of_mem_cancel {t : SteadyTimer κ} {w : Wait κ} (h : w ∈ t.cancel.waits) :
    ∃ v ∈ t.waits, v.tag = w.tag ∧ (w.status = .fired → v.status = .fired) := by
  obtain ⟨v, hv, rfl⟩ := List.mem_map.mp h
  refine ⟨v, hv, ?_, ?_⟩
  · unfold abort
    split <;> rfl
  · unfold abort
    split
    · intro h
      cases h
    · exact id

theorem mem_live {t : SteadyTimer κ} {w : Wait κ} :
    w ∈ t.live ↔ w ∈ t.waits ∧ w.status ≠ .aborted := by
  simp [live]

/-- What stays live when the timer is cancelled has fired. -/
theorem fired_of_mem_cancel {t : SteadyTimer κ} {w : Wait κ} (hw : w ∈ t.cancel.live) :
    w ∈ t.live ∧ w.status = .fired := by
  obtain ⟨hmem, hlive⟩ := List.mem_filter.mp hw
  have hlive : w.status ≠ .aborted := by simpa using hlive
  obtain ⟨v, hv, rfl⟩ := List.mem_map.mp hmem
  by_cases harmed : v.status = .armed
  · rw [abort, if_pos harmed] at hlive
    exact absurd rfl hlive
  · have hsame : abort v = v := if_neg harmed
    rw [hsame] at hlive ⊢
    refine ⟨List.mem_filter.mpr ⟨hv, by simpa using hlive⟩, ?_⟩
    cases hstatus : v.status with
    | armed => exact absurd hstatus harmed
    | fired => rfl
    | aborted => exact absurd hstatus hlive

/-- `expires_at(time)` and then `async_wait()` -/
def restart (t : SteadyTimer κ) (time : Int) (tag : κ) : SteadyTimer κ :=
  (t.expiresAt time).asyncWait tag

@[simp] theorem armed_restart (t : SteadyTimer κ) (time : Int) (tag : κ) :
    (t.restart time tag).armed = [⟨time, .armed, tag⟩] := by
  rw [restart, armed_asyncWait, armed_expiresAt]
  rfl

theorem mem_live_restart {t : SteadyTimer κ} {time : Int} {tag : κ} {w : Wait κ}
    (hw : w ∈ (t.restart time tag).live) :
    w = ⟨time, .armed, tag⟩ ∨ w ∈ t.live ∧ w.status = .fired := by
  rw [restart, live_asyncWait] at hw
  rcases List.mem_append.mp hw with hw | hw
  · exact .inr (fired_of_mem_cancel hw)
  · exact .inl (List.mem_singleton.mp hw)

/-! ## A timer that runs while it is needed -/

/-- At most one wait is armed. While the timer is needed, one is armed or its handler is
queued; otherwise none is armed. -/
structure RunsWhile (t : SteadyTimer κ) (needed : Prop) : Prop where
  armed : t.armed.length ≤ 1
  live : needed → t.live ≠ []
  stopped : ¬ needed → t.armed = []

namespace RunsWhile

variable {t t' : SteadyTimer κ} {needed needed' : Prop}

theorem congr (h : t.RunsWhile needed) (hiff : needed ↔ needed') : t.RunsWhile needed' :=
  ⟨h.armed, fun hneeded => h.live (hiff.mpr hneeded), fun hnot => h.stopped (mt hiff.mp hnot)⟩

theorem cancel (hnot : ¬ needed) : t.cancel.RunsWhile needed :=
  ⟨by simp, fun hneeded => absurd hneeded hnot, fun _ => t.armed_cancel⟩

theorem restart (hneeded : needed) (time : Int) (tag : κ) :
    (t.restart time tag).RunsWhile needed where
  armed := by simp
  live := fun _ => by simp [SteadyTimer.restart]
  stopped := fun hnot => absurd hneeded hnot

end RunsWhile

/-! ## What the clock and the executor do -/

variable [DecidableEq κ]

theorem fire_eq_some {t t' : SteadyTimer κ} {w : Wait κ} {now : Int}
    (h : t.fire w now = some t') :
    w ∈ t.armed ∧ w.expiry ≤ now ∧
      t' = { t with waits := t.waits.erase w ++ [{ w with status := .fired }] } := by
  unfold fire at h
  split at h
  · rename_i hw
    cases h
    exact ⟨List.mem_filter.mpr ⟨hw.1, by simp [hw.2.1]⟩, hw.2.2, rfl⟩
  · cases h

theorem deliver_eq_some {t t' : SteadyTimer κ} {w : Wait κ} (h : t.deliver w = some t') :
    w ∈ t.waits ∧ w.status ≠ .armed ∧ t' = { t with waits := t.waits.erase w } := by
  unfold deliver at h
  split at h
  · rename_i hw
    cases h
    exact ⟨hw.1, hw.2, rfl⟩
  · cases h

/-- A firing wait is no longer armed, and stays live. -/
theorem armed_fire {t t' : SteadyTimer κ} {w : Wait κ} {now : Int}
    (h : t.fire w now = some t') : t'.armed = t.armed.erase w := by
  obtain ⟨hw, -, rfl⟩ := fire_eq_some h
  simp only [armed, List.filter_append, List.filter_cons, List.filter_nil]
  rw [List.erase_filter]
  simp

theorem live_fire {t t' : SteadyTimer κ} {w : Wait κ} {now : Int} (h : t.fire w now = some t') :
    t'.live = t.live.erase w ++ [{ w with status := .fired }] := by
  obtain ⟨hw, -, rfl⟩ := fire_eq_some h
  simp only [live, List.filter_append, List.filter_cons, List.filter_nil]
  rw [List.erase_filter]
  simp

theorem live_deliver {t t' : SteadyTimer κ} {w : Wait κ} (h : t.deliver w = some t') :
    t'.live = t.live.erase w := by
  obtain ⟨-, -, rfl⟩ := deliver_eq_some h
  exact (List.erase_filter ..).symm

theorem mem_live_of_deliver {t t' : SteadyTimer κ} {w : Wait κ} (h : t.deliver w = some t') :
    ∀ v ∈ t'.live, v ∈ t.live := by
  intro v hv
  rw [live_deliver h] at hv
  exact List.mem_of_mem_erase hv

/-- Running the handler of a wait that is not armed leaves the armed ones. -/
theorem armed_deliver {t t' : SteadyTimer κ} {w : Wait κ} (h : t.deliver w = some t') :
    t'.armed = t.armed := by
  obtain ⟨-, hst, rfl⟩ := deliver_eq_some h
  show (t.waits.erase w).filter _ = t.waits.filter _
  rw [← List.erase_filter]
  refine List.erase_of_not_mem fun hmem => hst ?_
  simpa using (List.mem_filter.mp hmem).2

namespace RunsWhile

variable {t t' : SteadyTimer κ} {needed : Prop} {w : Wait κ}

theorem fire (h : t.RunsWhile needed) {now : Int} (hfire : t.fire w now = some t') :
    t'.RunsWhile needed where
  armed := by
    rw [armed_fire hfire]
    exact Nat.le_trans List.length_erase_le h.armed
  live := fun _ => by
    rw [live_fire hfire]
    simp
  stopped := fun hnot => by
    rw [armed_fire hfire, h.stopped hnot]
    rfl

/-- A handler that does not set the timer again. -/
theorem deliver (h : t.RunsWhile needed) (hdeliver : t.deliver w = some t')
    (hignored : w.status = .aborted ∨ ¬ needed) : t'.RunsWhile needed where
  armed := by
    rw [armed_deliver hdeliver]
    exact h.armed
  live := fun hneeded => by
    have haborted := hignored.resolve_right (not_not.mpr hneeded)
    have hnot : w ∉ t.live := fun hmem => (mem_live.mp hmem).2 haborted
    rw [live_deliver hdeliver, List.erase_of_not_mem hnot]
    exact h.live hneeded
  stopped := fun hnot => by
    rw [armed_deliver hdeliver]
    exact h.stopped hnot

end RunsWhile

end SteadyTimer

end CppComponents
