import CppComponents.SecureWebSocketClient.Connecting
import CppComponents.SecureWebSocketClient.Disconnects

/-!
# The ping timer and the read timer

`Timers` is the part of the client the two timers depend on, and `Timers.Step` says what
a step can do to it. Each timer runs while the client is connected and its setting is
positive; it is stopped by the end of the connection, set again by its setter, and its
handler sets it again before it returns.
-/

namespace CppComponents.SecureWebSocketClient

open CppComponents.Transition

variable {H σ : Type}

/-! ## What the timers depend on -/

structure Timers where
  state : ConnectionState
  pingTimer : SteadyTimer Unit
  readTimer : SteadyTimer Unit
  pingInterval : Int
  readTimeout : Int
  lastReadTime : Int
  now : Int

def Client.timers (c : Client H σ) : Timers :=
  ⟨c.state, c.pingTimer, c.readTimer, c.pingInterval, c.readTimeout, c.lastReadTime, c.now⟩

namespace Timers

/-- The ping timer is to run. -/
def Pinging (t : Timers) : Prop := t.state = .connected ∧ 0 < t.pingInterval

/-- The read timer is to run. -/
def Watching (t : Timers) : Prop := t.state = .connected ∧ 0 < t.readTimeout

instance (t : Timers) : Decidable t.Pinging := inferInstanceAs (Decidable (_ ∧ _))

instance (t : Timers) : Decidable t.Watching := inferInstanceAs (Decidable (_ ∧ _))

/-- When the connection is to be given up. -/
def deadline (t : Timers) : Int := t.lastReadTime + seconds t.readTimeout

/-- The connection ends. -/
def closed (t : Timers) : Timers :=
  { t with
    state := .disconnected
    pingTimer := t.pingTimer.cancel
    readTimer := t.readTimer.cancel }

/-- `start_ping_timer(delay)` -/
def startPing (t : Timers) (delay : Int) : Timers :=
  if t.pingInterval ≤ 0 ∨ t.state ≠ .connected then t
  else { t with pingTimer := t.pingTimer.restart (t.now + delay) () }

/-- `start_read_timer()` -/
def startRead (t : Timers) : Timers :=
  if t.readTimeout ≤ 0 ∨ t.state ≠ .connected then t
  else { t with readTimer := t.readTimer.restart t.deadline () }

/-- `last_read_time` is set. -/
def touch (t : Timers) : Timers := { t with lastReadTime := t.now }

/-- The connection is established. -/
def established (t : Timers) : Timers :=
  { t with state := .connected }.touch.startRead.startPing (seconds t.pingInterval)

def setPingInterval (t : Timers) (interval : Int) : Timers :=
  let t := { t with pingInterval := interval }
  if t.state ≠ .connected then t
  else { t with pingTimer := t.pingTimer.cancel }.startPing (seconds interval)

def setReadTimeout (t : Timers) (timeout : Int) : Timers :=
  let t := { t with readTimeout := timeout }
  if t.state ≠ .connected then t
  else { t.touch with readTimer := t.readTimer.cancel }.startRead

end Timers

/-! ## What the functions do to the timers -/

namespace Client

/-- The timers are a view that writing does not see. -/
theorem timersFrame : TransportFrame (timers : Client H σ → Timers) where
  fields := fun _ _ _ _ _ => rfl
  start := fun _ _ _ => rfl
  remove := fun _ _ _ => rfl
  log := fun _ _ _ => rfl

variable (cb : Callbacks H σ) (c : Client H σ)

theorem timers_startPingTimer (delay : Int) :
    (c.startPingTimer delay).timers = c.timers.startPing delay := by
  unfold startPingTimer Timers.startPing
  exact apply_ite timers _ _ _

theorem timers_startReadTimer : c.startReadTimer.timers = c.timers.startRead := by
  unfold startReadTimer Timers.startRead
  exact apply_ite timers _ _ _

/-- A read touches no timer. -/
theorem timers_startRead : c.startRead.timers = c.timers := by
  unfold startRead
  split
  · rfl
  · split <;> rfl

/-- `do_close()` cancels both timers, if there is something to close. -/
theorem timers_doClose (handler : Option HandlerId) :
    (c.doClose cb handler).timers =
      if c.state = .connected ∨ c.state = .connecting then c.timers.closed else c.timers := by
  have F := timersFrame (H := H) (σ := σ)
  unfold doClose
  split
  · have hdrained := (F.writing cb).failPendingWrites (c.setState .closing).cancelPendingOperations
    refine (F.callCloseHandler cb _ handler).trans ?_
    exact congrArg (fun t : Timers => { t with state := .disconnected }) hdrained
  · exact F.callCloseHandler cb c handler

/-- `close()` does the same; what it records is not of the timers. -/
theorem timers_close (handler : Option HandlerId) :
    (c.close cb handler).timers =
      if c.state = .connected ∨ c.state = .connecting then c.timers.closed else c.timers := by
  unfold close
  split
  · exact timers_doClose cb _ handler
  · exact timers_doClose cb c handler

theorem timers_handleUnexpectedDisconnect {c : Client H σ} (hstate : c.state = .connected)
    (ec : ErrorCode) : (c.handleUnexpectedDisconnect cb ec).timers = c.timers.closed := by
  rw [timersFrame.handleUnexpectedDisconnect cb (fun _ _ => rfl) hstate, timers_doClose,
    if_pos (.inl hstate)]

/-- A new connection starts the read timer, counting from now, and the ping timer. -/
theorem timers_afterHandshake : c.afterHandshake.timers =
    (c.timers.touch.startRead).startPing (seconds c.pingInterval) := by
  have hread : c.setLastReadTime.startReadTimer.startRead.timers = c.timers.touch.startRead := by
    rw [timers_startRead, timers_startReadTimer]
    rfl
  have hinterval : c.setLastReadTime.startReadTimer.startRead.pingInterval = c.pingInterval := by
    have hsame := congrArg Timers.pingInterval hread
    refine hsame.trans ?_
    unfold Timers.startRead
    split <;> rfl
  unfold afterHandshake
  simp only
  rw [timers_startPingTimer, hread, hinterval]

/-- `set_ping_interval()` is `Timers.setPingInterval`. -/
theorem timers_setPingInterval (interval : Int) :
    (c.setPingInterval interval).timers = c.timers.setPingInterval interval := by
  unfold setPingInterval Timers.setPingInterval
  by_cases hstate : c.state = .connected
  · simp only [isConnected, hstate, timers]
    exact timers_startPingTimer _ _
  · simp [isConnected, hstate, timers]

/-- `set_read_timeout()` is `Timers.setReadTimeout`. -/
theorem timers_setReadTimeout (timeout : Int) :
    (c.setReadTimeout timeout).timers = c.timers.setReadTimeout timeout := by
  unfold setReadTimeout Timers.setReadTimeout
  by_cases hstate : c.state = .connected
  · simp only [isConnected, hstate, timers]
    exact timers_startReadTimer _
  · simp [isConnected, hstate, timers]

/-- On every branch the handler of the ping timer starts the next wait. -/
theorem timers_handlePingTimer {c : Client H σ} {status : WaitStatus} (hfired : status ≠ .aborted)
    (hpinging : c.timers.Pinging) :
    ∃ delay, (c.handlePingTimer cb status).timers = c.timers.startPing delay := by
  have F := timersFrame (H := H) (σ := σ)
  obtain ⟨hstate, hinterval⟩ := hpinging
  have hstate : c.state = .connected := hstate
  have hinterval : 0 < c.pingInterval := hinterval
  unfold handlePingTimer
  rw [if_neg (by simp [hfired, hstate, hinterval])]
  have hstart : ∀ (c₁ : Client H σ) delay, c₁.timers = c.timers →
      ∃ delay', (c₁.startPingTimer delay).timers = c.timers.startPing delay' :=
    fun c₁ delay hsame => ⟨delay, by rw [timers_startPingTimer, hsame]⟩
  cases c.pingMessageGenerator with
  | none => exact hstart _ _ (F.queueWrite c _)
  | some h => exact hstart _ _ (F.ping cb c _ _)

/-- The check both handlers begin with. -/
theorem ignored_of_off {status : WaitStatus} {state : ConnectionState} {period : Int}
    (hoff : status = .aborted ∨ ¬ (state = .connected ∧ 0 < period)) :
    status = .aborted ∨ state ≠ .connected ∨ period ≤ 0 := by
  rcases hoff with haborted | hnot
  · exact .inl haborted
  · by_cases hstate : state = .connected
    · exact .inr (.inr (Int.not_lt.mp fun hpos => hnot ⟨hstate, hpos⟩))
    · exact .inr (.inl hstate)

theorem handlePingTimer_ignored {c : Client H σ} {status : WaitStatus}
    (hignored : status = .aborted ∨ ¬ c.timers.Pinging) : c.handlePingTimer cb status = c :=
  if_pos (ignored_of_off hignored)

theorem handleReadTimeout_ignored {c : Client H σ} {status : WaitStatus}
    (hignored : status = .aborted ∨ ¬ c.timers.Watching) : c.handleReadTimeout cb status = c :=
  if_pos (ignored_of_off hignored)

/-- The read timeout compares the clock with the deadline. -/
theorem handleReadTimeout_eq {c : Client H σ} {status : WaitStatus} (hfired : status ≠ .aborted)
    (hwatching : c.timers.Watching) :
    c.handleReadTimeout cb status =
      if c.now < c.timers.deadline then c.startReadTimer
      else c.handleUnexpectedDisconnect cb (.errc .timedOut) := by
  obtain ⟨hstate, htimeout⟩ := hwatching
  have hstate : c.state = .connected := hstate
  have htimeout : 0 < c.readTimeout := htimeout
  exact if_neg (by simp [hfired, hstate, htimeout])

end Client

/-! ## What a step does to the timers -/

/-- The event shows that the connection is alive, or begins to count anew. -/
def Event.isActivity : Event H → Bool
  | .complete (.read _) r => r.ec.isNone
  | .setReadTimeout _ => true
  | _ => false

/-- One case for each thing a step can do to the timers. -/
inductive Timers.Step (t : Timers) : Event H → Timers → Prop where
  | same (e : Event H) (hquiet : t.state = .connected → e.isActivity = false) : Step t e t
  | opened (handler : Option H) (hstate : t.state = .disconnected) :
    Step t (.connect handler) { t with state := .connecting }
  | closed (e : Event H) (hstate : t.state = .connected ∨ t.state = .connecting) :
    Step t e t.closed
  | established (e : Event H) (hstate : t.state = .connecting) : Step t e t.established
  | message (stream : Nat) (r : Completion) (hstate : t.state = .connected) (hec : r.ec = none) :
    Step t (.complete (.read stream) r) t.touch
  | setPingInterval (interval : Int) :
    Step t (.setPingInterval interval) (t.setPingInterval interval)
  | setReadTimeout (timeout : Int) : Step t (.setReadTimeout timeout) (t.setReadTimeout timeout)
  | firePing (w : Wait Unit) (p : SteadyTimer Unit) (hfire : t.pingTimer.fire w t.now = some p) :
    Step t (.firePingTimer w) { t with pingTimer := p }
  | fireRead (w : Wait Unit) (p : SteadyTimer Unit) (hfire : t.readTimer.fire w t.now = some p) :
    Step t (.fireReadTimer w) { t with readTimer := p }
  | ping (w : Wait Unit) (p : SteadyTimer Unit) (hdeliver : t.pingTimer.deliver w = some p)
      (hfired : w.status ≠ .aborted) (hpinging : t.Pinging) (delay : Int) :
    Step t (.pingTimer w) ({ t with pingTimer := p }.startPing delay)
  | pingIgnored (w : Wait Unit) (p : SteadyTimer Unit) (hdeliver : t.pingTimer.deliver w = some p)
      (hignored : w.status = .aborted ∨ ¬ t.Pinging) :
    Step t (.pingTimer w) { t with pingTimer := p }
  | rearmed (w : Wait Unit) (p : SteadyTimer Unit) (hdeliver : t.readTimer.deliver w = some p)
      (hfired : w.status ≠ .aborted) (hwatching : t.Watching) (hearly : t.now < t.deadline) :
    Step t (.readTimer w) { t with readTimer := p }.startRead
  | timedOut (w : Wait Unit) (p : SteadyTimer Unit) (hdeliver : t.readTimer.deliver w = some p)
      (hfired : w.status ≠ .aborted) (hwatching : t.Watching) (hlate : t.deadline ≤ t.now) :
    Step t (.readTimer w) { t with readTimer := p }.closed
  | readIgnored (w : Wait Unit) (p : SteadyTimer Unit) (hdeliver : t.readTimer.deliver w = some p)
      (hignored : w.status = .aborted ∨ ¬ t.Watching) :
    Step t (.readTimer w) { t with readTimer := p }
  | advance (duration : Nat) : Step t (.advance duration) { t with now := t.now + duration }

namespace Client

variable [DecidableEq H] {cb : Callbacks H σ} {c c' : Client H σ}

omit [DecidableEq H] in
/-- A message is activity, an error ends the connection, and a late read is neither. -/
theorem timers_handleRead (stream : Nat) (r : Completion) :
    c.timers.Step (.complete (.read stream : Op H) r) (c.handleRead cb r).timers := by
  unfold handleRead
  by_cases hstate : c.state = .connected
  · rw [if_neg (by simp [isConnected, hstate])]
    split
    · rw [timers_handleUnexpectedDisconnect cb hstate]
      exact .closed _ (.inl hstate)
    · rename_i hec
      have hcalled : (c.setLastReadTime.callMessageHandler cb).timers = c.timers.touch := by
        unfold callMessageHandler
        split
        · rfl
        · exact timersFrame.runCallback _ _
      rw [timers_startRead]
      show Timers.Step _ _ (callMessageHandler cb _).timers
      rw [hcalled]
      exact .message stream r hstate hec
  · rw [if_pos (by simp [isConnected, hstate])]
    exact .same _ fun hconnected => absurd hconnected hstate

/-- Among the operations only reads and the last phase of an attempt reach the timers. -/
theorem timers_complete (op : Op H) (r : Completion) :
    c.timers.Step (.complete op r) ((c.removeOp op).complete cb op r).timers := by
  have F := timersFrame (H := H) (σ := σ)
  cases op with
  | connect stream phase n handler =>
    cases F.complete_connect cb (c.removeOp (.connect stream phase n handler)) stream phase n
      handler r with
    | same hsame =>
      rw [hsame]
      exact .same _ fun _ => rfl
    | failed c₁ hstate hview hstate₁ hclosed =>
      rw [hclosed, timers_doClose, if_pos (.inr hstate₁), hview]
      exact .closed _ (.inr hstate)
    | established c₁ hstate hws hview hafter =>
      have hinterval : c₁.pingInterval = c.pingInterval := congrArg Timers.pingInterval hview
      rw [hafter, timers_afterHandshake, hview, hinterval]
      exact .established _ hstate
  | read stream => exact timers_handleRead (c := { c.removeOp (.read stream) with
      readBuffer := c.readBuffer.append r.received }) stream r
  | send stream generation slot item =>
    rcases F.complete_send cb (c.removeOp (.send stream generation slot item)) stream generation
      slot item r with hsame | ⟨hstate, c₁, ec, hstate₁, hview, hlost⟩
    · rw [hsame]
      exact .same _ fun _ => rfl
    · rw [hlost, timers_handleUnexpectedDisconnect cb hstate₁, hview]
      exact .closed _ (.inl hstate)

/-- One step of the client is one step of the timers. -/
theorem timers_step {e : Event H} (hstep : c.step cb e = some c') :
    c.timers.Step e c'.timers := by
  have F := timersFrame (H := H) (σ := σ)
  cases e with
  | assign a =>
    cases hstep
    have hsame : (c.assign a).timers = c.timers := by cases a <;> rfl
    rw [hsame]
    exact .same _ fun _ => rfl
  | connect handler =>
    cases hstep
    by_cases hstate : c.state = .disconnected
    · unfold doConnect
      rw [if_neg (not_not_intro hstate)]
      exact .opened handler hstate
    · rw [F.rejectConnect cb hstate]
      exact .same _ fun _ => rfl
  | close handler =>
    cases hstep
    rw [timers_close]
    split
    · rename_i hstate
      exact .closed _ hstate
    · exact .same _ fun _ => rfl
  | write message handler =>
    cases hstep
    rw [F.doWrite]
    exact .same _ fun _ => rfl
  | writeNow inThread message =>
    cases hstep
    rw [F.writeNow]
    exact .same _ fun _ => rfl
  | setMessageHandler handler => cases hstep; exact .same _ fun _ => rfl
  | setDisconnectHandler handler => cases hstep; exact .same _ fun _ => rfl
  | setPingMessageGenerator generator => cases hstep; exact .same _ fun _ => rfl
  | setPingInterval interval =>
    cases hstep
    rw [timers_setPingInterval]
    exact .setPingInterval interval
  | setReadTimeout timeout =>
    cases hstep
    rw [timers_setReadTimeout]
    exact .setReadTimeout timeout
  | complete op r =>
    simp only [Client.step] at hstep
    split at hstep
    · cases hstep
      exact timers_complete op r
    · cases hstep
  | firePingTimer w =>
    obtain ⟨p, hfire, rfl⟩ := Option.map_eq_some_iff.mp hstep
    exact .firePing w p hfire
  | fireReadTimer w =>
    obtain ⟨p, hfire, rfl⟩ := Option.map_eq_some_iff.mp hstep
    exact .fireRead w p hfire
  | pingTimer w =>
    obtain ⟨p, hdeliver, rfl⟩ := Option.map_eq_some_iff.mp hstep
    by_cases hignored : w.status = .aborted ∨ ¬ c.timers.Pinging
    · rw [handlePingTimer_ignored cb (c := { c with pingTimer := p }) hignored]
      exact .pingIgnored w p hdeliver hignored
    · obtain ⟨hfired, hpinging⟩ := not_or.mp hignored
      have hpinging := Decidable.not_not.mp hpinging
      obtain ⟨delay, hdelay⟩ := timers_handlePingTimer cb (c := { c with pingTimer := p }) hfired
        hpinging
      rw [hdelay]
      exact .ping w p hdeliver hfired hpinging delay
  | readTimer w =>
    obtain ⟨p, hdeliver, rfl⟩ := Option.map_eq_some_iff.mp hstep
    by_cases hignored : w.status = .aborted ∨ ¬ c.timers.Watching
    · rw [handleReadTimeout_ignored cb (c := { c with readTimer := p }) hignored]
      exact .readIgnored w p hdeliver hignored
    · obtain ⟨hfired, hwatching⟩ := not_or.mp hignored
      have hwatching := Decidable.not_not.mp hwatching
      rw [handleReadTimeout_eq cb (c := { c with readTimer := p }) hfired hwatching]
      split
      · rename_i hearly
        rw [timers_startReadTimer]
        exact .rearmed w p hdeliver hfired hwatching hearly
      · rename_i hlate
        rw [timers_handleUnexpectedDisconnect cb (c := { c with readTimer := p }) hwatching.1]
        exact .timedOut w p hdeliver hfired hwatching (Int.not_lt.mp hlate)
  | advance duration => cases hstep; exact .advance duration

end Client

/-! ## Setting the timers -/

namespace Timers

variable {t t' : Timers} {e : Event H}

/-- `start_ping_timer()` makes the ping timer run, if it is to run. -/
theorem startPing_spec (hstopped : ¬ t.Pinging → t.pingTimer.armed = []) (delay : Int) :
    ∃ p, t.startPing delay = { t with pingTimer := p } ∧ p.RunsWhile t.Pinging := by
  unfold startPing
  split
  · rename_i hnot
    have hoff : ¬ t.Pinging := fun ⟨hstate, hinterval⟩ => by
      rcases hnot with hle | hne
      · omega
      · exact hne hstate
    have hnone := hstopped hoff
    exact ⟨t.pingTimer, rfl, by simp [hnone], fun hon => absurd hon hoff, hstopped⟩
  · rename_i hnot
    obtain ⟨hinterval, hstate⟩ := not_or.mp hnot
    exact ⟨_, rfl, .restart ⟨Decidable.not_not.mp hstate, Int.not_le.mp hinterval⟩ _ ()⟩

/-- `start_read_timer()` makes the read timer run, if it is to run. A wait that was live
before stays only if it has fired. -/
theorem startRead_spec (hstopped : ¬ t.Watching → t.readTimer.armed = []) :
    ∃ p, t.startRead = { t with readTimer := p } ∧ p.RunsWhile t.Watching ∧
      (t.Watching → p.armed = [⟨t.deadline, .armed, ()⟩]) ∧
      ∀ w ∈ p.live, t.Watching ∧ w = ⟨t.deadline, .armed, ()⟩ ∨
        w ∈ t.readTimer.live ∧ (t.Watching → w.status = .fired) := by
  unfold startRead
  split
  · rename_i hnot
    have hoff : ¬ t.Watching := fun ⟨hstate, htimeout⟩ => by
      rcases hnot with hle | hne
      · omega
      · exact hne hstate
    have hnone := hstopped hoff
    exact ⟨t.readTimer, rfl, ⟨by simp [hnone], fun hon => absurd hon hoff, hstopped⟩,
      fun hon => absurd hon hoff, fun w hw => .inr ⟨hw, fun hon => absurd hon hoff⟩⟩
  · rename_i hnot
    obtain ⟨htimeout, hstate⟩ := not_or.mp hnot
    have hon : t.Watching := ⟨Decidable.not_not.mp hstate, Int.not_le.mp htimeout⟩
    refine ⟨_, rfl, .restart hon _ (), fun _ => t.readTimer.armed_restart _ (), fun w hw => ?_⟩
    rcases SteadyTimer.mem_live_restart hw with rfl | ⟨hmem, hfired⟩
    · exact .inl ⟨hon, rfl⟩
    · exact .inr ⟨hmem, fun _ => hfired⟩

/-- Setting a timer moves neither the state nor `last_read_time`. -/
theorem startPing_frame (t : Timers) (delay : Int) :
    (t.startPing delay).state = t.state ∧ (t.startPing delay).lastReadTime = t.lastReadTime := by
  unfold startPing
  split <;> exact ⟨rfl, rfl⟩

theorem startRead_frame (t : Timers) :
    t.startRead.state = t.state ∧ t.startRead.lastReadTime = t.lastReadTime := by
  unfold startRead
  split <;> exact ⟨rfl, rfl⟩

/-- `set_ping_interval()` is no activity. -/
theorem setPingInterval_frame (t : Timers) (interval : Int) :
    (t.setPingInterval interval).state = t.state ∧
      (t.setPingInterval interval).lastReadTime = t.lastReadTime := by
  unfold setPingInterval
  simp only
  split
  · exact ⟨rfl, rfl⟩
  · exact startPing_frame _ _

theorem not_pinging (hstate : t.state ≠ .connected) : ¬ t.Pinging := fun hon => hstate hon.1

theorem not_watching (hstate : t.state ≠ .connected) : ¬ t.Watching := fun hon => hstate hon.1

end Timers

end CppComponents.SecureWebSocketClient
