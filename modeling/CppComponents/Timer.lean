import CppComponents.Transition
import CppComponents.SteadyTimer
import CppComponents.ErrorCode

/-!
# The timer component

`Timer` is a steady timer of an executor's `io_context`. Its `async_wait` may be
given an empty handler, a handler gets a `std::error_code`, and the destructor
cancels what is left. A handler runs on the executor thread, at any moment after
its wait has ended, possibly after the timer object is gone: the lambda that
calls it captures the handler only.

Every operation of the object is one step, whichever code makes the call (a
handler may use the timer that called it). The clock, the `io_context` noticing
that an expiry has passed and the `io_context` running a handler are steps of
their own. `κ` names the calls of `async_wait` that are given a handler. Times
are unbounded integers.
-/

namespace CppComponents.Timer

open CppComponents.Transition

/-- A timer object, the clock it reads, and the handlers called so far with what
they were given. What a wait carries is the handler its lambda captured, if any. -/
structure State (κ : Type) where
  timer : SteadyTimer (Option κ)
  /-- the destructor has not run -/
  alive : Bool
  now : Int
  called : List (κ × Option ErrorCode)

variable {κ : Type}

/-- `Timer()`: a steady timer nobody has set. -/
def Constructed (s : State κ) : Prop :=
  s.timer.waits = [] ∧ s.alive = true ∧ s.called = []

namespace State

def expiresAfter (s : State κ) (duration : Int) : State κ :=
  { s with timer := s.timer.expiresAt (s.now + duration) }

def expiresAt (s : State κ) (timePoint : Int) : State κ :=
  { s with timer := s.timer.expiresAt timePoint }

def expiry (s : State κ) : Int := s.timer.expiry

def asyncWait (s : State κ) (handler : Option κ) : State κ :=
  { s with timer := s.timer.asyncWait handler }

/-- `cancel()`, which drops the error `steady_timer::cancel` reports. -/
def cancel (s : State κ) : State κ := { s with timer := s.timer.cancel }

/-- `~Timer()` -/
def destroy (s : State κ) : State κ := { s.cancel with alive := false }

/-- The lambda of `async_wait`, called with `ec`. -/
def onWait (s : State κ) (handler : Option κ) (ec : Option AsioError) : State κ :=
  match handler with
  | none => s
  | some k => { s with called := s.called ++ [(k, AsioError.toErrorCode ec)] }

end State

/-- What the handler of a wait is called with. -/
def resultOf : WaitStatus → Option AsioError
  | .aborted => some .operationAborted
  | _ => none

inductive Event (κ : Type) where
  | expiresAfter (duration : Int)
  | expiresAt (timePoint : Int)
  | asyncWait (handler : Option κ)
  | cancel
  | destroy
  /-- the clock moves on to `now` -/
  | tick (now : Int)
  /-- the `io_context` notices that the wait has expired -/
  | fire (w : Wait (Option κ))
  /-- the `io_context` runs the lambda of the wait -/
  | deliver (w : Wait (Option κ))

/-- Does the event end every wait the clock has not ended? -/
def Event.interrupts : Event κ → Bool
  | .expiresAfter _ | .expiresAt _ | .cancel | .destroy => true
  | _ => false

variable [DecidableEq κ]

def step (s : State κ) (e : Event κ) : Option (State κ) :=
  match e with
  | .expiresAfter duration => if s.alive then some (s.expiresAfter duration) else none
  | .expiresAt timePoint => if s.alive then some (s.expiresAt timePoint) else none
  | .asyncWait handler => if s.alive then some (s.asyncWait handler) else none
  | .cancel => if s.alive then some s.cancel else none
  | .destroy => if s.alive then some s.destroy else none
  | .tick now => if s.now ≤ now then some { s with now := now } else none
  | .fire w => (s.timer.fire w s.now).map fun timer => { s with timer := timer }
  | .deliver w =>
    (s.timer.deliver w).map fun timer => { s with timer := timer }.onWait w.tag (resultOf w.status)

def system (κ : Type) [DecidableEq κ] : System (State κ) (Event κ) where
  init := Constructed
  step := step

/-! ## What a run was asked to do

The record of a run is kept without looking at the waits of the steady timer: a
call of `async_wait` is *interrupted* by the first cancel, new expiry or
destruction after it, unless the clock has *reached* its expiry before. -/

structure Record (κ : Type) where
  /-- the calls of `async_wait` with a handler, with the expiry then in force -/
  waited : List (κ × Int)
  /-- those whose expiry the `io_context` has noticed, with the time -/
  reached : List (κ × Int)
  interrupted : List κ

def Record.empty : Record κ := ⟨[], [], []⟩

/-- The calls that nothing has ended yet. -/
def Record.unended (m : Record κ) : List κ :=
  (m.waited.map Prod.fst).filter fun k => k ∉ m.reached.map Prod.fst ∧ k ∉ m.interrupted

def Record.interrupt (m : Record κ) : Record κ :=
  { m with interrupted := m.interrupted ++ m.unended }

def Record.next (m : Record κ) (s : State κ) (e : Event κ) (_ : State κ) : Record κ :=
  match e with
  | .asyncWait (some k) => { m with waited := m.waited ++ [(k, s.expiry)] }
  | .fire ⟨_, _, some k⟩ => { m with reached := m.reached ++ [(k, s.now)] }
  | e => if e.interrupts then m.interrupt else m

/-- A recorded run. -/
abbrev recorded (κ : Type) [DecidableEq κ] : System (State κ × Record κ) (Event κ) :=
  (system κ).record .empty Record.next

/-- Each call of `async_wait` has its own name. -/
def freshCalls : Guard (State κ × Record κ) (Event κ) := fun p e =>
  match e with
  | .asyncWait (some k) => k ∉ p.2.waited.map Prod.fst
  | _ => True

/-- The clock reached the expiry of the call before anything interrupted it. -/
def Record.InTime (m : Record κ) (k : κ) : Prop :=
  k ∉ m.interrupted ∧ ∃ expiry time, (k, expiry) ∈ m.waited ∧ (k, time) ∈ m.reached ∧ expiry ≤ time

/-- The call was interrupted before the clock reached its expiry. -/
def Record.Interrupted (m : Record κ) (k : κ) : Prop :=
  k ∈ m.interrupted ∧ k ∉ m.reached.map Prod.fst

/-- What the record says of a call whose wait ended with `ec`. -/
def Record.EndedWith (m : Record κ) (k : κ) : Option AsioError → Prop
  | none => m.InTime k
  | some ec => ec = .operationAborted ∧ m.Interrupted k

/-- What the record says of a call whose wait is left. -/
def Record.Describes (m : Record κ) (w : Wait (Option κ)) (k : κ) : Prop :=
  match w.status with
  | .armed => (k, w.expiry) ∈ m.waited ∧ k ∈ m.unended
  | status => m.EndedWith k (resultOf status)

/-- The waits left and the handlers called are what the record asks for. -/
structure Agrees (s : State κ) (m : Record κ) : Prop where
  distinct : (m.waited.map Prod.fst).Nodup
  known : ∀ k, k ∈ m.reached.map Prod.fst ∨ k ∈ m.interrupted → k ∈ m.waited.map Prod.fst
  answered : (m.waited.map Prod.fst).Perm
    (s.called.map Prod.fst ++ s.timer.waits.filterMap Wait.tag)
  left : ∀ w ∈ s.timer.waits, ∀ k, w.tag = some k → m.Describes w k
  called : ∀ c ∈ s.called, ∃ ec, c.2 = AsioError.toErrorCode ec ∧ m.EndedWith c.1 ec
  destroyed : s.alive = false → s.timer.armed = []

/-! ## How the record grows -/

variable {s s' : State κ} {m : Record κ} {k : κ}

theorem Record.mem_unended : k ∈ m.unended ↔
    k ∈ m.waited.map Prod.fst ∧ k ∉ m.reached.map Prod.fst ∧ k ∉ m.interrupted := by
  simp [Record.unended]

theorem Record.EndedWith.not_unended {ec : Option AsioError} (h : m.EndedWith k ec) :
    k ∉ m.unended := by
  intro hk
  obtain ⟨-, hreached, hinterrupted⟩ := Record.mem_unended.mp hk
  cases ec with
  | none =>
    obtain ⟨-, expiry, time, -, htime, -⟩ := h
    exact hreached (List.mem_map_of_mem htime)
  | some ec => exact hinterrupted h.2.1

omit [DecidableEq κ] in
/-- A later call of `async_wait` leaves what was recorded. -/
theorem Record.EndedWith.waited {ec : Option AsioError} (h : m.EndedWith k ec) (c : κ × Int) :
    Record.EndedWith { m with waited := m.waited ++ [c] } k ec := by
  cases ec with
  | none =>
    obtain ⟨hinterrupted, expiry, time, hwaited, htime, hle⟩ := h
    exact ⟨hinterrupted, expiry, time, List.mem_append_left _ hwaited, htime, hle⟩
  | some ec => exact h

/-- What has ended is not interrupted any more. -/
theorem Record.EndedWith.interrupt {ec : Option AsioError} (h : m.EndedWith k ec) :
    m.interrupt.EndedWith k ec := by
  have hnot := h.not_unended
  cases ec with
  | none =>
    obtain ⟨hinterrupted, hreached⟩ := h
    exact ⟨fun hmem => (List.mem_append.mp hmem).elim hinterrupted hnot, hreached⟩
  | some ec => exact ⟨h.1, List.mem_append_left _ h.2.1, h.2.2⟩

/-- The clock reaches the expiry of another call. -/
theorem Record.EndedWith.reached {ec : Option AsioError} (h : m.EndedWith k ec) {k' : κ}
    (hk' : k' ∈ m.unended) (time : Int) :
    Record.EndedWith { m with reached := m.reached ++ [(k', time)] } k ec := by
  have hne : k ≠ k' := fun heq => h.not_unended (heq ▸ hk')
  cases ec with
  | none =>
    obtain ⟨hinterrupted, expiry, time', hwaited, htime, hle⟩ := h
    exact ⟨hinterrupted, expiry, time', hwaited, List.mem_append_left _ htime, hle⟩
  | some ec =>
    refine ⟨h.1, h.2.1, ?_⟩
    simpa [hne] using h.2.2

/-! ## The record is kept -/

omit [DecidableEq κ] in
theorem filterMap_tag_abort (ws : List (Wait (Option κ))) :
    (ws.map SteadyTimer.abort).filterMap Wait.tag = ws.filterMap Wait.tag := by
  rw [List.filterMap_map]
  refine List.filterMap_congr fun w _ => ?_
  show (SteadyTimer.abort w).tag = w.tag
  unfold SteadyTimer.abort
  split <;> rfl

/-- A cancel, a new expiry or the destruction of the timer. -/
theorem Agrees.interrupt (h : Agrees s m) (hcalled : s'.called = s.called)
    (hwaits : s'.timer.waits = s.timer.cancel.waits) : Agrees s' m.interrupt where
  distinct := h.distinct
  known := by
    rintro k (hreached | hinterrupted)
    · exact h.known k (.inl hreached)
    · rcases List.mem_append.mp hinterrupted with hinterrupted | hunended
      · exact h.known k (.inr hinterrupted)
      · exact (Record.mem_unended.mp hunended).1
  answered := by
    rw [hcalled, hwaits]
    show List.Perm _ (_ ++ (s.timer.waits.map SteadyTimer.abort).filterMap Wait.tag)
    rw [filterMap_tag_abort]
    exact h.answered
  left := by
    intro w hw k htag
    rw [hwaits] at hw
    obtain ⟨v, hv, rfl⟩ := List.mem_map.mp hw
    obtain ⟨expiry, status, tag⟩ := v
    cases status with
    | armed =>
      -- an armed wait is aborted; its call was not ended before
      obtain ⟨-, hunended⟩ : (k, expiry) ∈ m.waited ∧ k ∈ m.unended := h.left _ hv k htag
      show AsioError.operationAborted = .operationAborted ∧ m.interrupt.Interrupted k
      exact ⟨rfl, List.mem_append_right _ hunended, (Record.mem_unended.mp hunended).2.1⟩
    | fired =>
      have hended : m.EndedWith k none := h.left _ hv k htag
      exact hended.interrupt
    | aborted =>
      have hended : m.EndedWith k (some .operationAborted) := h.left _ hv k htag
      exact hended.interrupt
  called := by
    intro c hc
    rw [hcalled] at hc
    obtain ⟨ec, hec, hended⟩ := h.called c hc
    exact ⟨ec, hec, hended.interrupt⟩
  destroyed := fun _ => by
    show s'.timer.waits.filter _ = []
    rw [hwaits]
    exact s.timer.armed_cancel

/-- `async_wait` with an empty handler leaves nothing to answer. -/
theorem Agrees.asyncWait_empty (h : Agrees s m) (halive : s.alive = true) :
    Agrees (s.asyncWait none) m where
  distinct := h.distinct
  known := h.known
  answered := by
    show List.Perm _ (_ ++ (s.timer.waits ++ [_]).filterMap Wait.tag)
    rw [List.filterMap_append, List.filterMap_cons_none rfl, List.filterMap_nil, List.append_nil]
    exact h.answered
  left := by
    intro w hw k htag
    rcases List.mem_append.mp hw with hw | hw
    · exact h.left w hw k htag
    · obtain rfl := List.mem_singleton.mp hw
      cases htag
  called := h.called
  destroyed := fun hdead => absurd (halive.symm.trans hdead) (by simp)

theorem Record.Describes.waited {w : Wait (Option κ)} (h : m.Describes w k)
    (c : κ × Int) : Record.Describes { m with waited := m.waited ++ [c] } w k := by
  obtain ⟨expiry, status, tag⟩ := w
  cases status with
  | armed =>
    refine ⟨List.mem_append_left _ h.1, ?_⟩
    obtain ⟨hwaited, hrest⟩ := Record.mem_unended.mp h.2
    refine Record.mem_unended.mpr ⟨?_, hrest⟩
    rw [List.map_append]
    exact List.mem_append_left _ hwaited
  | fired => exact Record.EndedWith.waited (show m.EndedWith k none from h) c
  | aborted => exact Record.EndedWith.waited (show m.EndedWith k (some .operationAborted) from h) c

/-- `async_wait` with a handler. -/
theorem Agrees.asyncWait (h : Agrees s m) (halive : s.alive = true)
    (hfresh : k ∉ m.waited.map Prod.fst) :
    Agrees (s.asyncWait (some k)) { m with waited := m.waited ++ [(k, s.expiry)] } where
  distinct := by
    rw [List.map_append]
    exact (List.perm_append_singleton k _).nodup_iff.mpr (List.nodup_cons.mpr ⟨hfresh, h.distinct⟩)
  known := by
    intro k' hk'
    rw [List.map_append]
    exact List.mem_append_left _ (h.known k' hk')
  answered := by
    show List.Perm _ (_ ++ (s.timer.waits ++ [_]).filterMap Wait.tag)
    rw [List.map_append, List.filterMap_append, ← List.append_assoc]
    exact h.answered.append (.refl _)
  left := by
    intro w hw k' htag
    rcases List.mem_append.mp hw with hw | hw
    · exact (h.left w hw k' htag).waited _
    · obtain rfl := List.mem_singleton.mp hw
      obtain rfl : k = k' := by simpa using htag
      refine ⟨List.mem_append_right _ (List.mem_singleton.mpr rfl), ?_⟩
      refine Record.mem_unended.mpr ⟨by simp, ?_, ?_⟩
      · exact fun hreached => hfresh (h.known k (.inl hreached))
      · exact fun hinterrupted => hfresh (h.known k (.inr hinterrupted))
  called := by
    intro c hc
    obtain ⟨ec, hec, hended⟩ := h.called c hc
    exact ⟨ec, hec, hended.waited _⟩
  destroyed := fun hdead => absurd (halive.symm.trans hdead) (by simp)

/-- The names of the calls that still wait are distinct. -/
theorem Agrees.distinct_left (h : Agrees s m) :
    (s.timer.waits.filterMap Wait.tag).Nodup :=
  (List.nodup_append.mp (h.answered.nodup_iff.mp h.distinct)).2.1

/-- No other wait carries the name of a wait that is taken out. -/
theorem Agrees.ne_of_mem_erase (h : Agrees s m) {w v : Wait (Option κ)} {k' : κ}
    (hw : w ∈ s.timer.waits) (hv : v ∈ s.timer.waits.erase w) (hwtag : w.tag = some k)
    (hvtag : v.tag = some k') : k' ≠ k := by
  have hperm := (List.perm_cons_erase hw).filterMap Wait.tag
  rw [List.filterMap_cons_some hwtag] at hperm
  have hnodup := List.nodup_cons.mp (hperm.nodup_iff.mp h.distinct_left)
  rintro rfl
  exact hnodup.1 (List.mem_filterMap.mpr ⟨v, hv, hvtag⟩)

/-- The clock reaches the expiry of a wait with a handler. -/
theorem Agrees.fire (h : Agrees s m) {expiry : Int} {status : WaitStatus}
    {timer : SteadyTimer (Option κ)}
    (hfire : s.timer.fire ⟨expiry, status, some k⟩ s.now = some timer) :
    Agrees { s with timer := timer } { m with reached := m.reached ++ [(k, s.now)] } := by
  obtain ⟨harmed, hexpired, rfl⟩ := SteadyTimer.fire_eq_some hfire
  obtain ⟨hmem, hstatus⟩ := List.mem_filter.mp harmed
  obtain rfl : status = .armed := by simpa using hstatus
  obtain ⟨hwaited, hunended⟩ : (k, expiry) ∈ m.waited ∧ k ∈ m.unended := h.left _ hmem k rfl
  have hopen := Record.mem_unended.mp hunended
  refine ⟨h.distinct, ?_, ?_, ?_, ?_, ?_⟩
  · rintro k' (hreached | hinterrupted)
    · rw [List.map_append] at hreached
      rcases List.mem_append.mp hreached with hreached | hnew
      · exact h.known k' (.inl hreached)
      · obtain rfl : k' = k := by simpa using hnew
        exact hopen.1
    · exact h.known k' (.inr hinterrupted)
  · -- the wait keeps its handler
    refine h.answered.trans (.append_left _ ?_)
    rw [List.filterMap_append]
    refine ((List.perm_cons_erase hmem).filterMap Wait.tag).trans ?_
    exact (List.perm_append_singleton k _).symm
  · intro v hv k' htag
    rcases List.mem_append.mp hv with hv | hv
    · have hne := h.ne_of_mem_erase hmem hv rfl htag
      have hdescribed := h.left v (List.mem_of_mem_erase hv) k' htag
      obtain ⟨vexpiry, vstatus, vtag⟩ := v
      cases vstatus with
      | armed =>
        refine ⟨hdescribed.1, ?_⟩
        have hvopen := Record.mem_unended.mp hdescribed.2
        exact Record.mem_unended.mpr ⟨hvopen.1, by simpa [hne] using hvopen.2.1, hvopen.2.2⟩
      | fired =>
        have hended : m.EndedWith k' none := hdescribed
        exact hended.reached hunended _
      | aborted =>
        have hended : m.EndedWith k' (some .operationAborted) := hdescribed
        exact hended.reached hunended _
    · obtain rfl := List.mem_singleton.mp hv
      obtain rfl : k = k' := by simpa using htag
      exact ⟨hopen.2.2, expiry, s.now, hwaited, by simp, hexpired⟩
  · intro c hc
    obtain ⟨ec, hec, hended⟩ := h.called c hc
    exact ⟨ec, hec, hended.reached hunended _⟩
  · intro hdead
    rw [SteadyTimer.armed_fire hfire, h.destroyed hdead]
    rfl

/-- The clock reaches the expiry of a wait with an empty handler. -/
theorem Agrees.fire_empty (h : Agrees s m) {expiry : Int} {status : WaitStatus}
    {timer : SteadyTimer (Option κ)}
    (hfire : s.timer.fire ⟨expiry, status, none⟩ s.now = some timer) :
    Agrees { s with timer := timer } m := by
  obtain ⟨harmed, -, rfl⟩ := SteadyTimer.fire_eq_some hfire
  have hmem := SteadyTimer.armed_subset_waits harmed
  refine ⟨h.distinct, h.known, ?_, ?_, h.called, ?_⟩
  · refine h.answered.trans (.append_left _ ?_)
    rw [List.filterMap_append]
    exact (((List.perm_cons_erase hmem).filterMap Wait.tag).trans (by simp))
  · intro v hv k' htag
    rcases List.mem_append.mp hv with hv | hv
    · exact h.left v (List.mem_of_mem_erase hv) k' htag
    · obtain rfl := List.mem_singleton.mp hv
      cases htag
  · intro hdead
    rw [SteadyTimer.armed_fire hfire, h.destroyed hdead]
    rfl

/-- The lambda of a wait runs. -/
theorem Agrees.deliver (h : Agrees s m) {w : Wait (Option κ)} {timer : SteadyTimer (Option κ)}
    (hdeliver : s.timer.deliver w = some timer) :
    Agrees (({ s with timer := timer } : State κ).onWait w.tag (resultOf w.status)) m := by
  obtain ⟨hmem, hstatus, rfl⟩ := SteadyTimer.deliver_eq_some hdeliver
  have hperm := (List.perm_cons_erase hmem).filterMap Wait.tag
  have hdestroyed : s.alive = false →
      SteadyTimer.armed { s.timer with waits := s.timer.waits.erase w } = [] := by
    intro hdead
    rw [SteadyTimer.armed_deliver hdeliver, h.destroyed hdead]
  have hleft : ∀ v ∈ s.timer.waits.erase w, ∀ k, v.tag = some k → m.Describes v k :=
    fun v hv => h.left v (List.mem_of_mem_erase hv)
  obtain ⟨expiry, status, tag⟩ := w
  cases tag with
  | none =>
    refine ⟨h.distinct, h.known, h.answered.trans (.append_left _ ?_), hleft, h.called, hdestroyed⟩
    exact hperm.trans (.refl _)
  | some k =>
    refine ⟨h.distinct, h.known, ?_, hleft, ?_, hdestroyed⟩
    · show List.Perm _ ((s.called ++ [_]).map Prod.fst ++ _)
      rw [List.map_append, List.append_assoc]
      exact h.answered.trans (.append_left _ hperm)
    · intro c hc
      rcases List.mem_append.mp hc with hc | hc
      · exact h.called c hc
      · obtain rfl := List.mem_singleton.mp hc
        have hdescribed := h.left _ hmem k rfl
        cases status with
        | armed => exact absurd rfl hstatus
        | fired => exact ⟨none, rfl, hdescribed⟩
        | aborted => exact ⟨some .operationAborted, rfl, hdescribed⟩

theorem agrees_step {e : Event κ} (h : Agrees s m) (hfresh : freshCalls (s, m) e)
    (hstep : step s e = some s') : Agrees s' (m.next s e s') := by
  cases e with
  | expiresAfter duration =>
    obtain ⟨-, ⟨⟩⟩ := Option.ite_none_right_eq_some.mp hstep
    exact h.interrupt rfl rfl
  | expiresAt timePoint =>
    obtain ⟨-, ⟨⟩⟩ := Option.ite_none_right_eq_some.mp hstep
    exact h.interrupt rfl rfl
  | cancel =>
    obtain ⟨-, ⟨⟩⟩ := Option.ite_none_right_eq_some.mp hstep
    exact h.interrupt rfl rfl
  | destroy =>
    obtain ⟨-, ⟨⟩⟩ := Option.ite_none_right_eq_some.mp hstep
    exact h.interrupt rfl rfl
  | asyncWait handler =>
    obtain ⟨halive, ⟨⟩⟩ := Option.ite_none_right_eq_some.mp hstep
    cases handler with
    | none => exact h.asyncWait_empty halive
    | some k => exact h.asyncWait halive hfresh
  | tick now =>
    obtain ⟨-, ⟨⟩⟩ := Option.ite_none_right_eq_some.mp hstep
    exact ⟨h.distinct, h.known, h.answered, h.left, h.called, h.destroyed⟩
  | fire w =>
    obtain ⟨timer, hfire, rfl⟩ := Option.map_eq_some_iff.mp hstep
    obtain ⟨expiry, status, tag⟩ := w
    cases tag with
    | none => exact h.fire_empty hfire
    | some k => exact h.fire hfire
  | deliver w =>
    obtain ⟨timer, hdeliver, rfl⟩ := Option.map_eq_some_iff.mp hstep
    exact h.deliver hdeliver

theorem agrees_of_constructed (h : Constructed s) : Agrees s .empty := by
  obtain ⟨hwaits, halive, hcalled⟩ := h
  refine ⟨.nil, by simp [Record.empty], ?_, ?_, ?_, ?_⟩
  · rw [hwaits, hcalled]
    exact .refl _
  · intro w hw
    rw [hwaits] at hw
    cases hw
  · intro c hc
    rw [hcalled] at hc
    cases hc
  · exact fun hdead => absurd (halive.symm.trans hdead) (by simp)

theorem agrees_of_reachable (h : Reachable (recorded κ) freshCalls (s, m)) : Agrees s m := by
  refine h.invariant (I := fun p => Agrees p.1 p.2) ?_ ?_
  · rintro ⟨s, m⟩ ⟨hs, hm⟩
    obtain rfl : m = .empty := hm
    exact agrees_of_constructed hs
  · rintro ⟨s, m⟩ e ⟨t, m'⟩ hI hok he
    obtain ⟨ht, rfl⟩ := System.record_eq_some he
    exact agrees_step hI hok ht

/-- **Every wait is answered once, with what happened to it.** In every reachable
state each call of `async_wait` with a handler either has its wait left or its
handler called, once; a handler called with success waited until the clock had
reached the expiry, and nothing interrupted the wait before; any other was called
with `operation_aborted`, because a cancel, a new expiry or the destructor came
first. After the destructor no wait is armed, so every handler left can run. -/
theorem waits_answered_once (h : Reachable (recorded κ) freshCalls (s, m)) :
    (s.called.map Prod.fst).Nodup ∧
    (∀ k, k ∈ m.waited.map Prod.fst ↔
      (k ∈ s.called.map Prod.fst ∨ ∃ w ∈ s.timer.waits, w.tag = some k)) ∧
    (∀ k, k ∈ s.called.map Prod.fst → ∀ w ∈ s.timer.waits, w.tag ≠ some k) ∧
    (∀ k, (k, none) ∈ s.called → m.InTime k) ∧
    (∀ k ec, (k, some ec) ∈ s.called →
      ec = .asio .operationAborted ∧ m.Interrupted k) ∧
    (s.alive = false → ∀ w ∈ s.timer.waits, (step s (.deliver w)).isSome) := by
  have hI := agrees_of_reachable h
  have hnodup := List.nodup_append.mp (hI.answered.nodup_iff.mp hI.distinct)
  have hcalled : ∀ c ∈ s.called, ∃ ec, c.2 = AsioError.toErrorCode ec ∧ m.EndedWith c.1 ec :=
    hI.called
  refine ⟨hnodup.1, ?_, ?_, ?_, ?_, ?_⟩
  · intro k
    rw [hI.answered.mem_iff, List.mem_append, List.mem_filterMap]
  · intro k hk w hw htag
    exact hnodup.2.2 k hk k (List.mem_filterMap.mpr ⟨w, hw, htag⟩) rfl
  · intro k hk
    obtain ⟨ec, hec, hended⟩ := hcalled _ hk
    cases ec with
    | none => exact hended
    | some ec => cases hec
  · intro k ec hk
    obtain ⟨ec', hec, hended⟩ := hcalled _ hk
    cases ec' with
    | none => cases hec
    | some ec' =>
      obtain ⟨rfl, hinterrupted⟩ := hended
      exact ⟨by simpa [AsioError.toErrorCode] using hec, hinterrupted⟩
  · intro hdead w hw
    have harmed := List.filter_eq_nil_iff.mp (hI.destroyed hdead) w hw
    have hstatus : w.status ≠ .armed := by simpa using harmed
    simp [step, SteadyTimer.deliver, hw, hstatus]

/-- The first wait is fired in time; the second is armed when the timer is set
again, the third when it is destroyed; their handlers run in another order. -/
def threeWaits : List (Event Nat) :=
  [.expiresAfter 20, .asyncWait (some 0), .tick 25, .fire ⟨20, .armed, some 0⟩, .expiresAt 40,
    .asyncWait (some 1), .asyncWait none, .expiresAfter 5, .asyncWait (some 2), .destroy,
    .deliver ⟨30, .aborted, some 2⟩, .deliver ⟨20, .fired, some 0⟩,
    .deliver ⟨40, .aborted, some 1⟩]

instance (p : State Nat × Record Nat) (e : Event Nat) : Decidable (freshCalls p e) :=
  match e with
  | .asyncWait (some k) => inferInstanceAs (Decidable (k ∉ p.2.waited.map Prod.fst))
  | .asyncWait none | .expiresAfter _ | .expiresAt _ | .cancel | .destroy | .tick _ | .fire _
  | .deliver _ => isTrue trivial

/-- The results of the three handlers. -/
example : ((run (recorded Nat) freshCalls (⟨⟨0, []⟩, true, 0, []⟩, .empty) threeWaits).map
    fun p => p.1.called) = some [(2, some (.asio .operationAborted)), (0, none),
      (1, some (.asio .operationAborted))] := by decide

end CppComponents.Timer
