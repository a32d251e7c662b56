import CppComponents.ReconnectingSecureWebSocketClient.Sessions
import CppComponents.SignedInt

/-!
# The backoff law

`current_reconnect_delay` is doubled with every reconnect that is scheduled, up
to `max_reconnect_delay`. It is set again by `connect()`, by both setters, by a
successful connection and by `close()`. `Pacing` is the part of a session that
decides the delays, and `pacing_step` says what a step can do to it.

A successful connection sets `current_reconnect_delay` to
`initial_reconnect_delay` without the limit that `connect()` and
`set_max_reconnect_delay()` apply. So the law holds as long as a session is
connected only while `initial_reconnect_delay` is within the limit
(`cappedSuccess`).
-/

namespace CppComponents.ReconnectingSecureWebSocketClient

open CppComponents.SecureWebSocketClient CppComponents.Transition

variable {U : Type} (u : UserCallbacks U)

/-! ## What decides the delays -/

def SessionObs.asScheduled : SessionObs → Option Int
  | .scheduled delay => some delay
  | _ => none

/-- The settings, the delay that is next, the state, and the delays the timer was
armed with. -/
@[ext] structure Pacing where
  initial : Int
  max : Int
  current : Int
  state : State
  delays : List Int

namespace Pacing

/-- `connect()` is accepted. -/
def opened (p : Pacing) : Pacing :=
  { p with current := min p.initial p.max, state := .connecting }

/-- The next attempt is started. -/
def attempt (p : Pacing) : Pacing := { p with state := .connecting }

/-- An attempt succeeds. -/
def established (p : Pacing) : Pacing := { p with current := p.initial, state := .connected }

/-- `schedule_reconnect()` -/
def schedule (p : Pacing) : Pacing :=
  { p with
    current := min (p.current * 2) p.max
    state := .waitingReconnect
    delays := p.delays ++ [p.current] }

/-- `stop_reconnecting()` -/
def stopped (p : Pacing) : Pacing := { p with current := p.initial, state := .idle }

/-- `set_initial_reconnect_delay()` -/
def setInitial (p : Pacing) (delay : Int) : Pacing :=
  if p.state = .idle then { p with initial := delay, current := delay }
  else { p with initial := delay }

/-- `set_max_reconnect_delay()` -/
def setMax (p : Pacing) (delay : Int) : Pacing :=
  { p with max := delay, current := min p.current delay }

end Pacing

namespace Session

/-- The delays the reconnect timer was armed with. -/
def delays (s : Session) : List Int := s.log.filterMap SessionObs.asScheduled

def pacing (s : Session) : Pacing where
  initial := s.initialReconnectDelay
  max := s.maxReconnectDelay
  current := s.currentReconnectDelay
  state := s.reconnectState
  delays := s.delays

variable (s : Session)

theorem pacing_record {o : SessionObs} (ho : o.asScheduled = none) :
    (s.record o).pacing = s.pacing := by
  simp [pacing, record, delays, ho]

@[simp] theorem pacing_answer (ec : Option ErrorCode) : (s.answer ec).pacing = s.pacing := by
  unfold answer
  split
  · rfl
  · exact s.pacing_record rfl

@[simp] theorem pacing_rejected (handler : Option HandlerId) :
    (s.rejected handler).pacing = s.pacing := by
  unfold rejected
  split
  · rfl
  · exact s.pacing_record rfl

/-- An attempt leaves the delays. -/
theorem pacing_startAttempt : s.startAttempt.pacing = s.pacing.attempt := by
  unfold startAttempt
  split
  · rfl
  · exact s.nextGeneration.pacing_record rfl

/-- Scheduling is the schedule of the pacing. -/
theorem pacing_scheduleReconnect (hstate : s.reconnectState ≠ .idle) (now : Int) :
    (s.scheduleReconnect now).pacing = s.pacing.schedule := by
  unfold scheduleReconnect
  cases hs : s.reconnectState with
  | idle => exact absurd hs hstate
  | _ => simp [isReconnectActive, hs, pacing, Pacing.schedule, setReconnectState, delays,
      SessionObs.asScheduled]

/-- A new initial delay is the current one, too, if the session is idle. -/
theorem pacing_setInitialReconnectDelay (delay : Int) :
    (s.setInitialReconnectDelay delay).pacing = s.pacing.setInitial delay := by
  unfold setInitialReconnectDelay Pacing.setInitial
  by_cases hstate : s.reconnectState = .idle
  · simp [pacing, hstate, delays]
  · simp [pacing, hstate, delays]

/-- The result of an attempt that failed is ignored, or a reconnect is
scheduled. -/
theorem pacing_result_error (handler : Option Nat) (ec : ErrorCode) (now : Int) :
    (s.result handler (some ec) now).pacing = s.pacing ∨
      s.reconnectState = .connecting ∧
        (s.result handler (some ec) now).pacing = s.pacing.schedule := by
  cases handler with
  | none => exact .inl rfl
  | some generation =>
    by_cases hstale : generation ≠ s.connectionGeneration ∨ s.reconnectState ≠ .connecting
    · exact .inl (congrArg pacing (if_pos hstale))
    · have hstate : s.reconnectState = .connecting :=
        Decidable.not_not.mp (not_or.mp hstale).2
      refine .inr ⟨hstate, ?_⟩
      have hanswer : (s.answer (some ec)).reconnectState = s.reconnectState :=
        congrArg Pacing.state (s.pacing_answer (some ec))
      refine (congrArg pacing (if_neg hstale)).trans ?_
      show ((s.answer (some ec)).scheduleReconnect now).pacing = _
      rw [pacing_scheduleReconnect _ (by simp [hanswer, hstate]), pacing_answer]

/-- The result of an attempt that succeeded is ignored, or the session is
connected. -/
theorem pacing_result_success (handler : Option Nat) (now : Int) :
    (s.result handler none now).pacing = s.pacing ∨
      (handler = some s.connectionGeneration ∧ s.reconnectState = .connecting) ∧
        (s.result handler none now).pacing = s.pacing.established := by
  cases handler with
  | none => exact .inl rfl
  | some generation =>
    by_cases hstale : generation ≠ s.connectionGeneration ∨ s.reconnectState ≠ .connecting
    · exact .inl (congrArg pacing (if_pos hstale))
    · obtain ⟨hgeneration, hstate⟩ := not_or.mp hstale
      refine .inr ⟨⟨congrArg some (Decidable.not_not.mp hgeneration),
        Decidable.not_not.mp hstate⟩, ?_⟩
      exact (congrArg pacing (if_neg hstale)).trans (s.established.pacing_answer none)

/-- A lost connection schedules the next attempt, if it was the session's. -/
theorem pacing_disconnected (now : Int) :
    (s.disconnected now).pacing = s.pacing ∨
      s.reconnectState = .connected ∧ (s.disconnected now).pacing = s.pacing.schedule := by
  unfold disconnected
  by_cases hstate : s.reconnectState = .connected
  · rw [if_pos hstate]
    exact .inr ⟨hstate, s.pacing_scheduleReconnect (by simp [hstate]) now⟩
  · rw [if_neg hstate]
    exact .inl rfl

end Session

/-! ## What a step does to the delays -/

/-- The settings are positive. -/
def positiveSettings : Guard (ReconnectingClient U) Event
  | _, .setInitialReconnectDelay delay => 0 < delay
  | _, .setMaxReconnectDelay delay => 0 < delay
  | _, _ => True

instance (c : ReconnectingClient U) (e : Event) : Decidable (positiveSettings c e) := by
  unfold positiveSettings
  split <;> infer_instance

/-- When an attempt of the session succeeds, `initial_reconnect_delay` is within
the limit. -/
def cappedSuccess : Guard (ReconnectingClient U) Event
  | c, .base (.complete (.connect _ .websocketHandshake _ (some generation)) r) =>
    r.ec = none → c.state = .connecting →
      generation = c.owner.session.connectionGeneration →
      c.owner.session.reconnectState = .connecting →
      c.owner.session.initialReconnectDelay ≤ c.owner.session.maxReconnectDelay
  | _, _ => True

instance (c : ReconnectingClient U) (e : Event) : Decidable (cappedSuccess c e) := by
  unfold cappedSuccess
  split <;> infer_instance

/-- What a step that the guards allow does to the delays. -/
inductive Pacing.Step (p : Pacing) : Pacing → Prop where
  | same : Step p p
  | opened : p.state = .idle → Step p p.opened
  | attempt : p.state = .waitingReconnect → Step p p.attempt
  | established : p.state = .connecting → p.initial ≤ p.max → Step p p.established
  | schedule : p.state ≠ .idle → p.state ≠ .waitingReconnect → Step p p.schedule
  | stopped : Step p p.stopped
  | setInitial (delay : Int) : 0 < delay → Step p (p.setInitial delay)
  | setMax (delay : Int) : 0 < delay → Step p (p.setMax delay)

/-- What a step does to the delays, if it sets the settings to what `initialOk` and
`maxOk` allow, and connects the session only if `connects`. -/
inductive Pacing.Change (initialOk maxOk : Int → Prop) (connects : Prop) (p : Pacing) :
    Pacing → Prop where
  | same : Change initialOk maxOk connects p p
  | opened : p.state = .idle → Change initialOk maxOk connects p p.opened
  | attempt : p.state = .waitingReconnect → Change initialOk maxOk connects p p.attempt
  | established : p.state = .connecting → connects →
    Change initialOk maxOk connects p p.established
  | schedule : p.state ≠ .idle → p.state ≠ .waitingReconnect →
    Change initialOk maxOk connects p p.schedule
  | stopped : Change initialOk maxOk connects p p.stopped
  | setInitial (delay : Int) : initialOk delay →
    Change initialOk maxOk connects p (p.setInitial delay)
  | setMax (delay : Int) : maxOk delay → Change initialOk maxOk connects p (p.setMax delay)

/-- The guards allow the changes that the pacing counts as steps. -/
theorem Pacing.Change.toStep {p p' : Pacing}
    (h : p.Change (0 < ·) (0 < ·) (p.initial ≤ p.max) p') : p.Step p' := by
  cases h with
  | same => exact .same
  | opened hstate => exact .opened hstate
  | attempt hstate => exact .attempt hstate
  | established hstate hle => exact .established hstate hle
  | schedule hidle hwait => exact .schedule hidle hwait
  | stopped => exact .stopped
  | setInitial delay hpos => exact .setInitial delay hpos
  | setMax delay hpos => exact .setMax delay hpos

/-- Only the success of the current attempt connects the session. -/
theorem handshake_of_connected {c c' : ReconnectingClient U} {stream : Nat} {phase : Phase}
    {n generation : Nat} {r : Completion}
    (hstep : step u c (.base (.complete (.connect stream phase n (some generation)) r)) = some c')
    (hstate : c.state = .connecting) (hconnected : c'.state = .connected) :
    phase = .websocketHandshake ∧ r.ec = none := by
  simp only [step, isInherited, if_true, Client.step] at hstep
  split at hstep
  · cases hstep
    by_cases hidle : c.ws = none
    · rw [Client.complete_connect_of_ne (c := c.removeOp _) _ fun _ => hidle] at hconnected
      have hnever : ConnectionState.connecting = .connected := hstate.symm.trans hconnected
      cases hnever
    obtain ⟨ws, hws⟩ := Option.ne_none_iff_exists'.mp hidle
    exact Client.success_of_connected (c := c.removeOp _) (callbacks u) hstate hws hconnected
  · cases hstep

section

variable {initialOk maxOk : Int → Prop} {connects : Prop}

/-- What the success of the current attempt allows. -/
def Connects (c c' : ReconnectingClient U) (e : Event) (connects : Prop) : Prop :=
  ∀ stream phase n r, e = .base (.complete (.connect stream phase n
    (some c.owner.session.connectionGeneration)) r) → c.state = .connecting →
    c.owner.session.reconnectState = .connecting → c'.state = .connected → connects

/-- A step of the base client changes the delays through a success or a lost connection
only. -/
theorem pacing_baseStep {c c' : ReconnectingClient U} {e : SecureWebSocketClient.Event Nat}
    (hok : Connects c c' (.base e) connects) (hstep : step u c (.base e) = some c') :
    c.owner.session.pacing.Change initialOk maxOk connects c'.owner.session.pacing := by
  have hbase := baseStep_of_step u hstep
  generalize hv : view c' = v at hbase
  have hsession : c'.owner.session = v.session := congrArg View.session hv
  have hstate' : c'.state = v.attempts.state := congrArg (fun v : View => v.attempts.state) hv
  rw [hsession]
  cases hbase with
  | same => exact .same
  | ignored => exact .same
  | lost now _ _ =>
    rcases c.owner.session.pacing_disconnected now with hsame | ⟨hstate, hschedule⟩
    · show Pacing.Change _ _ _ _ (c.owner.session.disconnected now).pacing
      rw [hsame]
      exact .same
    · show Pacing.Change _ _ _ _ (c.owner.session.disconnected now).pacing
      rw [hschedule]
      exact .schedule (by simp [Session.pacing, hstate]) (by simp [Session.pacing, hstate])
  -- the result of an attempt reaches the session only if it is of its generation
  | progress stream phase n handler r rest v' he hcompletes hstate hprogress =>
    cases hprogress with
    | started => exact .same
    | failed ec now =>
      show Pacing.Change _ _ _ _ (c.owner.session.result handler (some ec) now).pacing
      rcases c.owner.session.pacing_result_error handler ec now with hsame | ⟨hconn, hschedule⟩
      · rw [hsame]
        exact .same
      · rw [hschedule]
        exact .schedule (by simp [Session.pacing, hconn]) (by simp [Session.pacing, hconn])
    | connected now =>
      show Pacing.Change _ _ _ _ (c.owner.session.result handler none now).pacing
      rcases c.owner.session.pacing_result_success handler now with
        hsame | ⟨⟨rfl, hconn⟩, hestablished⟩
      · rw [hsame]
        exact .same
      · rw [hestablished]
        subst he
        exact .established hconn (hok stream phase n r rfl hstate hconn hstate')

/-- What a step does to the delays. -/
theorem pacing_change {c c' : ReconnectingClient U} {e : Event}
    (hinitial : ∀ delay, e = .setInitialReconnectDelay delay → initialOk delay)
    (hmax : ∀ delay, e = .setMaxReconnectDelay delay → maxOk delay)
    (hok : Connects c c' e connects) (hstep : step u c e = some c') :
    c.owner.session.pacing.Change initialOk maxOk connects c'.owner.session.pacing := by
  show c.owner.session.pacing.Change _ _ _ (view c').session.pacing
  cases step_spec hstep with
  | connect prepareConnection handler =>
    rw [view_connect]
    show Pacing.Change _ _ _ _
      (if c.owner.session.reconnectState ≠ .idle then _ else _ : Session).pacing
    split
    · rw [Session.pacing_rejected]
      exact .same
    · rename_i hidle
      rw [Session.pacing_startAttempt]
      exact .opened (Decidable.not_not.mp hidle)
  | close handler =>
    rw [view_close]
    exact .stopped
  | setInitialReconnectDelay delay =>
    show Pacing.Change _ _ _ _ (c.owner.session.setInitialReconnectDelay delay).pacing
    rw [Session.pacing_setInitialReconnectDelay]
    exact .setInitial delay (hinitial delay rfl)
  | setMaxReconnectDelay delay =>
    exact .setMax delay (hmax delay rfl)
  | ready generation host port resource hprepared =>
    -- the handler may find the base client busy: that is an error like any other
    let c₁ := setSession c (c.owner.session.record (.ready generation))
    have hsame : c₁.owner.session.pacing = c.owner.session.pacing :=
      c.owner.session.pacing_record rfl
    rw [view_handleConnectionReady, ← hsame]
    show Pacing.Change _ _ _ _ ((view c₁).ready generation host port resource c₁.now).session.pacing
    unfold View.ready
    split
    · exact .same
    · simp only
      split
      · exact .same
      · show Pacing.Change _ _ _ _ (c₁.owner.session.result (some generation) _ c₁.now).pacing
        rcases c₁.owner.session.pacing_result_error (some generation) (.errc .alreadyConnected)
          c₁.now with hignored | ⟨hconn, hschedule⟩
        · rw [hignored]
          exact .same
        · rw [hschedule]
          exact .schedule (by simp [Session.pacing, hconn]) (by simp [Session.pacing, hconn])
  | fireReconnectTimer w t hfire =>
    exact .same
  | reconnectTimer w t hdeliver =>
    rw [view_timer]
    show Pacing.Change _ _ _ _ (c.owner.session.timer w t).pacing
    unfold Session.timer
    split
    · exact .same
    · rename_i hwait
      rw [Session.pacing_startAttempt]
      exact .attempt (Decidable.not_not.mp (not_or.mp (not_or.mp hwait).2).2)
  | base e c' hinherited hbase => exact pacing_baseStep u hok hstep

end

/-- What an allowed step does to the delays. -/
theorem pacing_step {c c' : ReconnectingClient U} {e : Event} (hpos : positiveSettings c e)
    (hok : cappedSuccess c e) (hstep : step u c e = some c') :
    c.owner.session.pacing.Step c'.owner.session.pacing := by
  refine (pacing_change u ?_ ?_ ?_ hstep).toStep
  · rintro delay rfl
    exact hpos
  · rintro delay rfl
    exact hpos
  · rintro stream phase n r rfl hstate hsession hconnected
    obtain ⟨rfl, hec⟩ := handshake_of_connected u hstep hstate hconnected
    exact hok hec hstate rfl hsession

/-! ## The law -/

/-- What is remembered of a run: how many reconnects were scheduled since
`connect()` or the last successful connection, and whether the settings were
changed since. -/
structure Series where
  scheduled : Nat
  changed : Bool
  deriving DecidableEq

/-- A series starts when `connect()` is accepted and when a session is connected. -/
def Series.next (m : Series) (p p' : Pacing) : Series :=
  if p.state = .idle ∧ p'.state = .connecting ∨ p.state = .connecting ∧ p'.state = .connected then
    ⟨0, false⟩
  else
    ⟨m.scheduled + (p'.delays.length - p.delays.length),
      m.changed || decide (p'.initial ≠ p.initial ∨ p'.max ≠ p.max)⟩

/-- A reconnecting client with its series. -/
def series : System (ReconnectingClient U × Series) Event :=
  (system u).remember ⟨0, false⟩ fun m c c' => m.next c.owner.session.pacing c'.owner.session.pacing

/-- A step arms the timer with a positive delay within the limit. While the
settings are not changed, it is the initial delay doubled with every reconnect
of the series, up to the limit. -/
def Series.Law (m : Series) (p p' : Pacing) : Prop :=
  p'.delays = p.delays ∨ ∃ delay, p'.delays = p.delays ++ [delay] ∧
    0 < delay ∧ delay ≤ p.max ∧
    (m.changed = false → delay = min (p.initial * 2 ^ m.scheduled) p.max)

/-- What makes the law hold. -/
structure Pacing.Inv (p : Pacing) (m : Series) : Prop where
  initial : 0 < p.initial
  max : 0 < p.max
  current : 0 < p.current
  capped : p.state ≠ .idle → p.current ≤ p.max
  doubled : p.state ≠ .idle → m.changed = false →
    p.current = min (p.initial * 2 ^ m.scheduled) p.max

namespace Pacing.Inv

variable {p p' : Pacing} {m : Series}

/-- A step that neither starts a series nor schedules a reconnect. -/
theorem keep (h : p.Inv m) (hinitial : 0 < p'.initial) (hmax : 0 < p'.max)
    (hcurrent : 0 < p'.current) (hcapped : p'.state ≠ .idle → p'.current ≤ p'.max)
    (hdelays : p'.delays = p.delays)
    (hsame : p'.state ≠ .idle → p'.initial = p.initial → p'.max = p.max →
      p.state ≠ .idle ∧ p'.current = p.current)
    (hstart : ¬ (p.state = .idle ∧ p'.state = .connecting ∨
      p.state = .connecting ∧ p'.state = .connected)) : p'.Inv (m.next p p') where
  initial := hinitial
  max := hmax
  current := hcurrent
  capped := hcapped
  doubled := fun hstate hchanged => by
    rw [Series.next, if_neg hstart] at hchanged ⊢
    simp only [hdelays, Nat.sub_self, Nat.add_zero, Bool.or_eq_false_iff, decide_eq_false_iff_not,
      not_or, not_not] at hchanged ⊢
    obtain ⟨hold, heq, hlimit⟩ := hchanged
    obtain ⟨hactive, hcur⟩ := hsame hstate heq hlimit
    rw [hcur, heq, hlimit]
    exact h.doubled hactive hold

/-- A step that starts a series. -/
theorem start (h : p.Inv m) (hinitial : p'.initial = p.initial) (hmax : p'.max = p.max)
    (hcurrent : p'.current = min p.initial p.max)
    (hstart : p.state = .idle ∧ p'.state = .connecting ∨
      p.state = .connecting ∧ p'.state = .connected) : p'.Inv (m.next p p') := by
  have := h.initial
  have := h.max
  rw [Series.next, if_pos hstart]
  constructor
  · omega
  · omega
  · omega
  · omega
  · intro _ _
    rw [hcurrent, hinitial, hmax, pow_zero, mul_one]

/-- Scheduling doubles the current delay, and counts one more of the series. -/
theorem schedule (h : p.Inv m) (hidle : p.state ≠ .idle) :
    p.schedule.Inv (m.next p p.schedule) := by
  have hcurrent := h.current
  have hmax := h.max
  have hstart : ¬ (p.state = .idle ∧ p.schedule.state = .connecting ∨
      p.state = .connecting ∧ p.schedule.state = .connected) := by
    rintro (⟨-, hnever⟩ | ⟨-, hnever⟩)
    all_goals cases hnever
  rw [Series.next, if_neg hstart]
  constructor
  · exact h.initial
  · exact hmax
  · show 0 < min (p.current * 2) p.max
    omega
  · intro _
    exact min_le_right _ _
  · intro _ hchanged
    have hold : m.changed = false := (Bool.or_eq_false_iff.mp hchanged).1
    show min (p.current * 2) p.max = _
    rw [h.doubled hidle hold, SignedInt.min_double hmax]
    simp [Pacing.schedule, pow_succ, mul_assoc]

/-- An allowed step keeps what makes the law hold. -/
theorem step (h : p.Inv m) (hstep : p.Step p') : p'.Inv (m.next p p') := by
  have hinitial := h.initial
  have hmax := h.max
  have hcurrent := h.current
  cases hstep with
  | same =>
    refine h.keep hinitial hmax hcurrent h.capped rfl (fun hstate _ _ => ⟨hstate, rfl⟩) ?_
    rintro (⟨hold, hnew⟩ | ⟨hold, hnew⟩)
    all_goals
      rw [hold] at hnew
      cases hnew
  | opened hidle => exact h.start rfl rfl rfl (.inl ⟨hidle, rfl⟩)
  | attempt hwait =>
    have hactive : p.state ≠ .idle := by simp [hwait]
    refine h.keep hinitial hmax hcurrent (fun _ => h.capped hactive) rfl
      (fun _ _ _ => ⟨hactive, rfl⟩) ?_
    simp [hwait]
  | established hconn hle =>
    exact h.start rfl rfl (min_eq_left hle).symm (.inr ⟨hconn, rfl⟩)
  | schedule hidle _ => exact h.schedule hidle
  | stopped =>
    refine h.keep hinitial hmax hinitial (fun hidle => absurd rfl hidle) rfl
      (fun hidle => absurd rfl hidle) ?_
    simp [Pacing.stopped]
  | setInitial delay hpos =>
    by_cases hidle : p.state = .idle
    · have hset : p.setInitial delay = { p with initial := delay, current := delay } := if_pos hidle
      rw [hset]
      exact h.keep hpos hmax hpos (fun hstate => absurd hidle hstate) rfl
        (fun hstate => absurd hidle hstate) (by simp [hidle])
    · have hset : p.setInitial delay = { p with initial := delay } := if_neg hidle
      rw [hset]
      refine h.keep hpos hmax hcurrent h.capped rfl (fun hstate _ _ => ⟨hstate, rfl⟩) ?_
      rintro (⟨hold, -⟩ | ⟨hold, hnew⟩)
      · exact hidle hold
      · have hstate : p.state = .connected := hnew
        rw [hold] at hstate
        cases hstate
  -- the limit in force caps the delay that is next at once
  | setMax delay hpos =>
    refine h.keep hinitial hpos ?_ (fun _ => min_le_right _ _) rfl ?_ ?_
    · show 0 < min p.current delay
      omega
    · intro hstate _ hlimit
      have hlimit : delay = p.max := hlimit
      have hle := h.capped hstate
      refine ⟨hstate, ?_⟩
      show min p.current delay = p.current
      omega
    · rintro (⟨hold, hnew⟩ | ⟨hold, hnew⟩)
      all_goals
        have hstate : p.state = _ := hnew
        rw [hold] at hstate
        cases hstate

/-- The delay that a step arms the timer with is the current one, and that is the doubled
one. -/
theorem law (h : p.Inv m) (hstep : p.Step p') : m.Law p p' := by
  cases hstep with
  | schedule hidle _ =>
    exact .inr ⟨p.current, rfl, h.current, h.capped hidle, h.doubled hidle⟩
  | setInitial delay =>
    left
    unfold Pacing.setInitial
    split <;> rfl
  | _ => exact .inl rfl

/-- The default settings are positive, and the initial one is within the limit. -/
theorem create (now : Int) : (Session.create now).pacing.Inv ⟨0, false⟩ where
  initial := show (0 : Int) < seconds 1 by decide
  max := show (0 : Int) < seconds 60 by decide
  current := show (0 : Int) < seconds 1 by decide
  capped := fun hidle => absurd rfl hidle
  doubled := fun hidle => absurd rfl hidle

end Pacing.Inv

/-- By induction on the run: the current delay is the doubled one as long as the settings
stay. -/
theorem inv_of_reachable {c : ReconnectingClient U} {m : Series}
    (hr : Reachable (series u) (fun p => (positiveSettings.and cappedSuccess) p.1) (c, m)) :
    c.owner.session.pacing.Inv m := by
  refine hr.invariant (I := fun p => p.1.owner.session.pacing.Inv p.2) ?_ ?_
  · rintro ⟨c, m⟩ ⟨⟨user, now, rfl⟩, rfl⟩
    exact .create now
  · rintro ⟨c, m⟩ e ⟨c', m'⟩ h ⟨hpos, hcapped⟩ he
    obtain ⟨c₁, hc₁, heq⟩ := Option.map_eq_some_iff.mp he
    obtain ⟨rfl, rfl⟩ := Prod.mk.inj heq
    exact h.step (pacing_step u hpos hcapped hc₁)

/-- **The backoff law.** In every run with positive settings in which the attempts
of a session succeed only while `initial_reconnect_delay` is within the limit,
every delay the reconnect timer is armed with is positive and within the limit
in force, and the delays of a series are doubled up to the limit. -/
theorem backoff_law {c : ReconnectingClient U} {m : Series}
    (hr : Reachable (series u) (fun p => (positiveSettings.and cappedSuccess) p.1) (c, m))
    {e : Event} (hok : (positiveSettings.and cappedSuccess) c e) {c' : ReconnectingClient U}
    (hstep : step u c e = some c') :
    m.Law c.owner.session.pacing c'.owner.session.pacing :=
  (inv_of_reachable u hr).law (pacing_step u hok.1 hok.2 hstep)

/-- An attempt of a session that connects, for its generation. -/
def succeed (generation : Nat) : List Event :=
  [.ready generation "host" "443" "/",
    .base (.complete (.connect generation .resolve generation (some generation)) {}),
    .base (.complete (.connect generation .connect generation (some generation)) {}),
    .base (.complete (.connect generation .sslHandshake generation (some generation)) {}),
    .base (.complete (.connect generation .websocketHandshake generation (some generation)) {})]

/-- An attempt that fails, and the wait for the next one. -/
def failAndWait : List Event :=
  [.ready 1 "host" "443" "/",
    .base (.complete (.connect 1 .resolve 1 (some 1)) ⟨some (.other 1), none, none, none, []⟩),
    .base (.advance (10 ^ 9)), .fireReconnectTimer ⟨seconds 1, .armed, 1⟩,
    .reconnectTimer ⟨seconds 1, .fired, 1⟩]

/-- The connection is lost to a read error. -/
def readError : Event := .base (.complete (.read 1) ⟨some (.other 1), none, none, none, []⟩)

/-- The limit is 10 ms, below the initial delay. The session connects, and when the
connection is lost the timer is armed with the initial delay. -/
theorem not_backoffLaw_initialAboveMax :
    ¬ ∀ (c : ReconnectingClient Unit) (m : Series),
      Reachable (series .silent) (fun p => positiveSettings p.1) (c, m) →
      ∀ e c', positiveSettings c e → step .silent c e = some c' →
        m.Law c.owner.session.pacing c'.owner.session.pacing := by
  intro hall
  have hsome : ((run (series (.silent : UserCallbacks Unit)) (fun p => positiveSettings p.1)
      (Client.create ⟨Session.create 0, ()⟩ 0, ⟨0, false⟩)
      ([.setMaxReconnectDelay (10 ^ 7), .connect (some 1) (some 2)] ++ succeed 1)).map fun p =>
      (p.1.owner.session.maxReconnectDelay, p.1.owner.session.delays,
        (step .silent p.1 readError).map fun c' => c'.owner.session.delays)) =
      some (10 ^ 7, [], some [10 ^ 9]) := by
    decide
  obtain ⟨⟨c, m⟩, hrun, hc⟩ := Option.map_eq_some_iff.mp hsome
  simp only [Prod.mk.injEq] at hc
  obtain ⟨hmax, hdelays, hstep⟩ := hc
  obtain ⟨c', hstep, hdelays'⟩ := Option.map_eq_some_iff.mp hstep
  have hr : Reachable (series (.silent : UserCallbacks Unit)) (fun p => positiveSettings p.1)
      (c, m) := ⟨_, ⟨⟨(), 0, rfl⟩, rfl⟩, Path.of_run _ hrun⟩
  have hlaw := hall c m hr readError c' trivial hstep
  simp only [Series.Law, Session.pacing, hdelays, hdelays', hmax] at hlaw
  rcases hlaw with hnil | ⟨delay, heq, -, hle, -⟩
  · cases hnil
  · obtain rfl : (10 ^ 9 : Int) = delay := by simpa using heq
    exact absurd hle (by decide)

/-- The second reconnect of a series waits twice the initial delay. -/
theorem backoff_law_secondFailure :
    ∃ (c c' : ReconnectingClient Unit) (m : Series),
      m.scheduled = 1 ∧ m.Law c.owner.session.pacing c'.owner.session.pacing ∧
      c'.owner.session.delays = c.owner.session.delays ++ [2 * 10 ^ 9] := by
  have hsome : ((run (series (.silent : UserCallbacks Unit))
      (fun p => (positiveSettings.and cappedSuccess) p.1)
      (Client.create ⟨Session.create 0, ()⟩ 0, ⟨0, false⟩)
      ([.connect (some 1) (some 2)] ++ failAndWait ++ [.ready 2 "host" "443" "/"])).map fun p =>
      (p.2.scheduled, p.1.owner.session.delays, (step .silent p.1 (.base (.complete
        (.connect 2 .resolve 2 (some 2)) ⟨some (.other 1), none, none, none, []⟩))).map
          fun c' => c'.owner.session.delays)) =
      some (1, [10 ^ 9], some [10 ^ 9, 2 * 10 ^ 9]) := by
    decide
  obtain ⟨⟨c, m⟩, hrun, hc⟩ := Option.map_eq_some_iff.mp hsome
  simp only [Prod.mk.injEq] at hc
  obtain ⟨hscheduled, hdelays, hstep⟩ := hc
  obtain ⟨c', hstep, hdelays'⟩ := Option.map_eq_some_iff.mp hstep
  have hr : Reachable (series (.silent : UserCallbacks Unit))
      (fun p => (positiveSettings.and cappedSuccess) p.1) (c, m) :=
    ⟨_, ⟨⟨(), 0, rfl⟩, rfl⟩, Path.of_run _ hrun⟩
  have hok : (positiveSettings.and cappedSuccess) c (.base (.complete
      (.connect 2 .resolve 2 (some 2)) ⟨some (.other 1), none, none, none, []⟩)) :=
    ⟨trivial, trivial⟩
  refine ⟨c, c', m, hscheduled, backoff_law .silent hr hok hstep, ?_⟩
  rw [hdelays', hdelays]
  rfl

end CppComponents.ReconnectingSecureWebSocketClient
