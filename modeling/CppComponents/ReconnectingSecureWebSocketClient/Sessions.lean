import CppComponents.SecureWebSocketClient.Attempts
import CppComponents.ReconnectingSecureWebSocketClient.Model

/-!
# What a step does to a session

User code runs inside most steps of a reconnecting client, and cannot touch the
session. So what a step does to the session is a function of the session: one
for each function of the subclass (`Session.startAttempt`, `connectResult`, …).
`view` is the session together with the part of the base client it has to stay
in step with, the attempts and the target. There is one lemma for each kind of
step; theorems about sessions are proved from these and do not look at the base
client again.
-/

namespace CppComponents.ReconnectingSecureWebSocketClient

open CppComponents.SecureWebSocketClient CppComponents.Transition CppComponents.Pending

variable {U : Type} (u : UserCallbacks U)

/-! ## The session functions without the user -/

namespace Session

/-- A session is active unless it is idle. -/
theorem isReconnectActive_iff (s : Session) :
    s.isReconnectActive = true ↔ s.reconnectState ≠ .idle := by
  unfold isReconnectActive
  cases s.reconnectState <;> simp

/-- `connect_handler` is called. -/
def answer (s : Session) (ec : Option ErrorCode) : Session :=
  match s.connectHandler with
  | none => s
  | some h => s.record (.answered h ec)

/-- The next attempt has its generation. -/
def nextGeneration (s : Session) : Session :=
  { s with reconnectState := .connecting, connectionGeneration := s.connectionGeneration + 1 }

/-- `start_connect_attempt()` -/
def startAttempt (s : Session) : Session :=
  match s.prepareConnection with
  | none => s.nextGeneration
  | some h => s.nextGeneration.record (.prepared h (s.connectionGeneration + 1))

/-- The session is in state `connected`. -/
def established (s : Session) : Session :=
  { s with currentReconnectDelay := s.initialReconnectDelay, reconnectState := .connected }

/-- `handle_connect_result()` -/
def connectResult (s : Session) (generation : Nat) (ec : Option ErrorCode) (now : Int) :
    Session :=
  if generation ≠ s.connectionGeneration ∨ s.reconnectState ≠ .connecting then s
  else
    match ec with
    | some e => (s.answer (some e)).scheduleReconnect now
    | none => s.established.answer none

/-- The connect handler of a base attempt is called. -/
def result (s : Session) (handler : Option Nat) (ec : Option ErrorCode) (now : Int) : Session :=
  match handler with
  | none => s
  | some generation => s.connectResult generation ec now

/-- `on_unexpected_disconnect()` -/
def disconnected (s : Session) (now : Int) : Session :=
  if s.reconnectState = .connected then s.scheduleReconnect now else s

/-- `connect()` is accepted. -/
def opened (s : Session) (prepareConnection handler : Option HandlerId) : Session :=
  { s with
    prepareConnection := prepareConnection
    connectHandler := handler
    currentReconnectDelay := min s.initialReconnectDelay s.maxReconnectDelay }

/-- `connect()` is rejected. -/
def rejected (s : Session) (handler : Option HandlerId) : Session :=
  match handler with
  | none => s
  | some h => s.record (.rejected h)

/-- The timer is replaced. -/
def withTimer (s : Session) (t : SteadyTimer Nat) : Session := { s with reconnectTimer := t }

end Session

/-- `prepare_connection` is called for the next generation; the user does not see the
session. -/
theorem session_startConnectAttempt (now : Int) (o : Owner U) :
    (startConnectAttempt u now o).1.session = o.session.startAttempt := by
  unfold startConnectAttempt Session.startAttempt
  cases hprepare : o.session.prepareConnection with
  | none => simp [Session.setReconnectState, hprepare, Session.nextGeneration]
  | some h =>
    simp [Session.setReconnectState, hprepare, Session.nextGeneration, call, Session.record]

/-- The user's connect handler is called. -/
theorem session_callConnectHandler (ec : Option ErrorCode) (now : Int) (o : Owner U) :
    (callConnectHandler u ec now o).1.session = o.session.answer ec := by
  unfold callConnectHandler Session.answer
  cases o.session.connectHandler <;> rfl

/-- The result of an attempt counts for its own generation only. -/
theorem session_handleConnectResult (generation : Nat) (ec : Option ErrorCode) (now : Int)
    (o : Owner U) :
    (handleConnectResult u generation ec now o).1.session =
      o.session.connectResult generation ec now := by
  unfold handleConnectResult Session.connectResult
  split
  · rfl
  · cases ec with
    | some e =>
      exact congrArg (Session.scheduleReconnect · now) (session_callConnectHandler u (some e) now o)
    | none => exact session_callConnectHandler u none now _

/-- A lost connection counts for a session that had it. -/
theorem session_onUnexpectedDisconnect (handler : Option HandlerId) (ec : ErrorCode) (now : Int)
    (o : Owner U) :
    (onUnexpectedDisconnect u handler ec now o).1.session = o.session.disconnected now := by
  unfold onUnexpectedDisconnect Session.disconnected
  by_cases hstate : o.session.reconnectState = .connected
  · cases handler <;> simp [hstate, call]
  · cases handler <;> simp [hstate, call]

/-- The timer starts an attempt, unless it was cancelled or is of an earlier generation. -/
theorem session_handleReconnectTimer (generation : Nat) (status : WaitStatus) (now : Int)
    (o : Owner U) :
    (handleReconnectTimer u generation status now o).1.session =
      if status = .aborted ∨ generation ≠ o.session.connectionGeneration ∨
        o.session.reconnectState ≠ .waitingReconnect then o.session
      else o.session.startAttempt := by
  unfold handleReconnectTimer
  split
  · rfl
  · exact session_startConnectAttempt u now o

/-- `connect()` opens a session, or is rejected. -/
theorem session_connect (prepareConnection handler : Option HandlerId) (now : Int) (o : Owner U) :
    (connect u prepareConnection handler now o).1.session =
      if o.session.reconnectState ≠ .idle then o.session.rejected handler
      else (o.session.opened prepareConnection handler).startAttempt := by
  unfold connect
  split
  · cases handler <;> rfl
  · exact session_startConnectAttempt u now _

/-! ## The view -/

@[ext] structure View where
  attempts : Attempts Nat
  session : Session
  host : String
  port : String
  resource : String

def view (c : ReconnectingClient U) : View where
  attempts := c.attempts
  session := c.owner.session
  host := c.host
  port := c.port
  resource := c.resource

/-- The user's handlers leave the session alone. -/
theorem viewFrame : Client.Frame (callbacks u) view where
  fields := fun _ _ _ _ _ _ _ _ => rfl
  settings := fun _ _ _ _ _ _ _ => rfl
  start := fun c _ hop =>
    congrArg (fun a => { view c with attempts := a }) (Client.attempts_startOp c hop)
  remove := fun c _ hop =>
    congrArg (fun a => { view c with attempts := a }) (Client.attempts_removeOp c hop)
  log := fun c _ ho => congrArg (fun a => { view c with attempts := a })
    (Client.attempts_log c (Obs.asAttempt_of_isTransfer ho))
  owner := fun _ _ hf => by cases hf <;> rfl
  setState := fun _ _ state h =>
    congrArg (fun v : View => { v with attempts := { v.attempts with state := state } }) h

theorem view_runCallback (c : ReconnectingClient U) (f : Callback (Owner U)) :
    view (c.runCallback f) = { view c with session := (f c.now c.owner).1.session } :=
  (viewFrame .silent).runCallback c f

/-- The connect handler of the base client is that of the session. -/
theorem view_answerConnect (c : ReconnectingClient U) (n : Nat) (handler : Option Nat)
    (ec : Option ErrorCode) :
    view (c.answerConnect (callbacks u) n handler ec) =
      { view c with
        attempts := { c.attempts with log := c.attempts.log ++ Attempts.answer n handler ec }
        session := c.owner.session.result handler ec c.now } := by
  refine View.ext (Client.attempts_answerConnect _ c n handler ec) ?_ ?_ ?_ ?_
  · cases handler with
    | none => rfl
    | some generation => exact session_handleConnectResult u generation ec c.now c.owner
  all_goals cases handler <;> rfl

/-- So is its disconnect handler. -/
theorem view_answerDisconnect (c : ReconnectingClient U) (ec : ErrorCode) :
    view (c.answerDisconnect (callbacks u) ec) =
      { view c with session := c.owner.session.disconnected c.now } := by
  refine View.ext rfl ?_ rfl rfl rfl
  exact session_onUnexpectedDisconnect u c.disconnectHandler ec c.now c.owner

/-! ## The steps of the subclass -/

/-- `do_connect()`: the attempt is accepted, or its handler is called. -/
theorem view_doConnect (c : ReconnectingClient U) (generation : Nat) :
    view (c.doConnect (callbacks u) (some generation)) =
      if c.state = .disconnected then
        { view c with attempts := c.attempts.accept (some generation) }
      else
        { view c with session :=
          c.owner.session.connectResult generation (some (.errc .alreadyConnected)) c.now } := by
  have hattempts := Client.attempts_doConnect (callbacks u) c (some generation)
  by_cases hstate : c.state = .disconnected
  · rw [if_pos hstate] at hattempts ⊢
    refine View.ext hattempts ?_ ?_ ?_ ?_
    all_goals
      unfold Client.doConnect
      rw [if_neg (not_not_intro hstate)]
      rfl
  · rw [if_neg hstate] at hattempts ⊢
    have hview : view (c.doConnect (callbacks u) (some generation)) = { view c with session :=
        (handleConnectResult u generation (some (.errc .alreadyConnected)) c.now c.owner).1.session
        } := by
      unfold Client.doConnect
      rw [if_pos hstate]
      refine ((viewFrame u).rejectConnect c generation).trans ?_
      exact View.ext (Client.attempts_log c rfl) rfl rfl rfl rfl
    rw [hview, session_handleConnectResult]

/-- `close()` ends the session before it closes the base client. -/
theorem view_close (c : ReconnectingClient U) (handler : Option HandlerId) :
    view (close u c handler) =
      { view c with
        attempts := c.attempts.close
        session := c.owner.session.stopReconnecting } := by
  let c₀ := setSession c c.owner.session.stopReconnecting
  have hclose := (viewFrame u).close c₀ handler
  refine View.ext (Client.attempts_close _ c₀ handler) ?_ ?_ ?_ ?_
  · refine (congrArg View.session hclose).trans ?_
    split_ifs <;> rfl
  · refine (congrArg View.host hclose).trans ?_
    split_ifs <;> rfl
  · refine (congrArg View.port hclose).trans ?_
    split_ifs <;> rfl
  · refine (congrArg View.resource hclose).trans ?_
    split_ifs <;> rfl

/-- `handle_connection_ready()` -/
def View.ready (v : View) (generation : Nat) (host port resource : String) (now : Int) : View :=
  if generation ≠ v.session.connectionGeneration ∨ v.session.reconnectState ≠ .connecting then v
  else
    let v := { v with host := host, port := port, resource := resource }
    if v.attempts.state = .disconnected then
      { v with attempts := v.attempts.accept (some generation) }
    else
      { v with session := v.session.connectResult generation (some (.errc .alreadyConnected)) now }

section

variable {v : View} {generation : Nat} (host port resource : String) (now : Int)

theorem View.ready_of_stale (hstale : generation ≠ v.session.connectionGeneration ∨
    v.session.reconnectState ≠ .connecting) : v.ready generation host port resource now = v :=
  if_pos hstale

/-- A current one starts an attempt of the base client, if that is disconnected. -/
theorem View.ready_of_disconnected (hgeneration : generation = v.session.connectionGeneration)
    (hstate : v.session.reconnectState = .connecting) (hbase : v.attempts.state = .disconnected) :
    v.ready generation host port resource now =
      { v with
        attempts := v.attempts.accept (some generation)
        host := host, port := port, resource := resource } := by
  simp [View.ready, hgeneration, hstate, hbase]

/-- If it is not, the attempt fails with `already_connected`. -/
theorem View.ready_of_busy (hgeneration : generation = v.session.connectionGeneration)
    (hstate : v.session.reconnectState = .connecting) (hbase : v.attempts.state ≠ .disconnected) :
    v.ready generation host port resource now =
      { v with
        session := v.session.connectResult generation (some (.errc .alreadyConnected)) now
        host := host, port := port, resource := resource } := by
  simp [View.ready, hgeneration, hstate, hbase]

end

/-- The three cases together. -/
theorem view_handleConnectionReady (c : ReconnectingClient U) (generation : Nat)
    (host port resource : String) :
    view (handleConnectionReady u c generation host port resource) =
      (view c).ready generation host port resource c.now := by
  unfold handleConnectionReady View.ready
  by_cases hstale : generation ≠ c.owner.session.connectionGeneration ∨
      c.owner.session.reconnectState ≠ .connecting
  · rw [if_pos hstale]
    exact (if_pos hstale).symm
  · rw [if_neg hstale, view_doConnect]
    exact (if_neg hstale).symm

/-- The delivery of a wait of the reconnect timer, `t` being the timer then. -/
def Session.timer (s : Session) (w : Wait Nat) (t : SteadyTimer Nat) : Session :=
  if w.status = .aborted ∨ w.tag ≠ s.connectionGeneration ∨ s.reconnectState ≠ .waitingReconnect
  then s.withTimer t else (s.withTimer t).startAttempt

/-- `connect()` on the view. -/
theorem view_connect (c : ReconnectingClient U) (prepareConnection handler : Option HandlerId) :
    view (c.runCallback (connect u prepareConnection handler)) =
      { view c with session :=
        if c.owner.session.reconnectState ≠ .idle then c.owner.session.rejected handler
        else (c.owner.session.opened prepareConnection handler).startAttempt } := by
  rw [view_runCallback, session_connect]

/-- The reconnect timer on the view. -/
theorem view_timer (c : ReconnectingClient U) (w : Wait Nat) (t : SteadyTimer Nat) :
    view ((setSession c { c.owner.session with reconnectTimer := t }).runCallback
      (handleReconnectTimer u w.tag w.status)) =
      { view c with session := c.owner.session.timer w t } := by
  rw [view_runCallback, session_handleReconnectTimer]
  rfl

/-! ## The steps of the base client -/

/-- What the completion of an operation of a base attempt does while the base
client is connecting. -/
inductive View.Progress (n : Nat) (handler : Option Nat) (v : View) : View → Prop where
  | failed (ec : ErrorCode) (now : Int) : Progress n handler v
      { v with
        attempts := v.attempts.enter .disconnected (Attempts.answer n handler (some ec))
        session := v.session.result handler (some ec) now }
  | started (next : Phase) : Progress n handler v
      { v with attempts := v.attempts.start n next handler }
  | connected (now : Int) : Progress n handler v
      { v with
        attempts := v.attempts.enter .connected (.connected n :: Attempts.answer n handler none)
        session := v.session.result handler none now }

theorem view_logTargets (c : ReconnectingClient U) (n : Nat) (uses : List TargetUse) :
    view (c.logTargets n uses) = view c :=
  View.ext (Client.attempts_logTargets c n uses) rfl rfl rfl rfl

/-- What an attempt of the base client does to the view. -/
theorem progress_of_moves {c : ReconnectingClient U} {phase : Phase} {n : Nat}
    {handler : Option Nat} {v : View} (h : Client.Moves (callbacks u) view phase n handler c v) :
    (view c).Progress n handler v := by
  rcases h with ⟨uses, ec, c₁, -, hc₁, hv⟩ | ⟨ws, next, -, hv⟩ | ⟨-, hv⟩
  · have hclosed : view ((c.logTargets n uses).setState .disconnected) =
        { view c with attempts := { c.attempts with state := .disconnected } } :=
      congrArg (fun v : View => { v with attempts := { v.attempts with state := .disconnected } })
        (view_logTargets c n uses)
    have hsession : c₁.owner.session = c.owner.session := congrArg View.session hc₁
    have hattempts : c₁.attempts = { c.attempts with state := .disconnected } :=
      congrArg View.attempts (hc₁.trans hclosed)
    rw [hv, view_answerConnect, hsession, hc₁, hclosed, hattempts]
    exact .failed ec c₁.now
  · have hview : view ((c.logTargets n (phase.reads c.host c.resource)).startPhase ws next n
        handler) = { view c with attempts := c.attempts.start n next handler } := by
      refine View.ext ((Client.attempts_startPhase _ ws next n handler).trans ?_) rfl rfl rfl rfl
      rw [Client.attempts_logTargets]
    rw [hv, hview]
    exact .started next
  · have hattempts : (c.establish n).attempts = c.attempts.enter .connected [.connected n] := by
      rw [Client.establish, Client.attempts_log _ rfl, Client.attempts_log_attempt]
      rfl
    rw [hv, view_answerConnect, hattempts]
    have hview : View.Progress n handler (view c) _ := .connected c.now
    simpa [view, Attempts.enter, Client.establish, Client.log, Client.setState, hattempts]
      using hview

/-- What a step of the base client does. -/
inductive View.BaseStep (v : View) (e : SecureWebSocketClient.Event Nat) : View → Prop where
  | same : BaseStep v e v
  /-- a connection is lost -/
  | lost (now : Int) : e.IsTransfer → v.attempts.state = .connected → BaseStep v e
      { v with
        attempts := { v.attempts with state := .disconnected }
        session := v.session.disconnected now }
  | ignored (stream : Nat) (phase : Phase) (n : Nat) (handler : Option Nat) (r : Completion)
      (rest : Nat → List (Phase × Option Nat)) :
      e = .complete (.connect stream phase n handler) r →
      v.attempts.Completes n phase handler rest →
      (v.attempts.state = .connecting → v.attempts.stream = none) →
      BaseStep v e { v with attempts := v.attempts.complete rest }
  | progress (stream : Nat) (phase : Phase) (n : Nat) (handler : Option Nat) (r : Completion)
      (rest : Nat → List (Phase × Option Nat)) (v' : View) :
      e = .complete (.connect stream phase n handler) r →
      v.attempts.Completes n phase handler rest → v.attempts.state = .connecting →
      Progress n handler { v with attempts := v.attempts.complete rest } v' → BaseStep v e v'

/-- **The step rule** for what the subclass inherits. -/
theorem baseStep_of_step {c c' : ReconnectingClient U} {e : SecureWebSocketClient.Event Nat}
    (hstep : step u c (.base e) = some c') : (view c).BaseStep e (view c') := by
  cases step_spec hstep with
  | base e c' hinherited hbase =>
    have hinternal : e.IsInternal := by
      cases e with
      | assign | connect | close => cases hinherited
      | _ => trivial
    rcases (viewFrame u).viewStep hinternal hbase with
      hsame | ⟨c₀, c₁, ec, htransfer, hstate, hc₀, hc₁, hv⟩ |
      ⟨stream, phase, n, handler, r, he, hop, hidle, hv⟩ |
      ⟨stream, phase, n, handler, r, he, hop, hstate, hmoves⟩
    · exact hsame ▸ .same
    · have hclosed : view c₁ =
          { view c with attempts := { c.attempts with state := .disconnected } } :=
        hc₁.trans (congrArg (fun v : View =>
          { v with attempts := { v.attempts with state := .disconnected } }) hc₀)
      have hsession : c₁.owner.session = c.owner.session := congrArg View.session hclosed
      rw [hv, view_answerDisconnect, hclosed, hsession]
      exact .lost c₁.now htransfer hstate
    · rw [hv]
      exact .ignored stream phase n handler r _ he (Client.completes_removeOp hop) hidle
    · exact .progress stream phase n handler r _ _ he (Client.completes_removeOp hop) hstate
        (progress_of_moves u hmoves)

end CppComponents.ReconnectingSecureWebSocketClient
