import CppComponents.SecureWebSocketClient.Model

/-!
# The reconnecting WebSocket client

`ReconnectingSecureWebSocketClient` derives from `SecureWebSocketClient`. Its
`connect()` opens a session: `prepare_connection` is called before each
attempt and is given a ready callback, which may be invoked from anywhere, at
any time. The invocation posts `handle_connection_ready()`, and that starts a
connect attempt of the base client. When the attempt fails, or the connection
is lost, a timer is armed and the session goes on with the next attempt, until
`close()`. Everything that is deferred carries the `connection_generation` it
was created under.

The base client calls the subclass through its connect handlers, which carry a
generation, and through `on_unexpected_disconnect()`. So the fields of the
subclass are the owner of a base client whose handlers are generations
(`callbacks`), and a reconnecting client is such a client. The methods
`connect()` and `close()` of the base are hidden by those of the subclass; the
other ones are inherited, and so are the steps of the base client.

Durations are unbounded integers.
-/

namespace CppComponents.ReconnectingSecureWebSocketClient

open CppComponents.SecureWebSocketClient CppComponents.Transition

inductive State where
  | idle
  | connecting
  | connected
  | waitingReconnect
  deriving DecidableEq, Repr

/-- What is recorded of the sessions. -/
inductive SessionObs where
  /-- `prepare_connection` was called, with the ready callback of `generation` -/
  | prepared (handler : HandlerId) (generation : Nat)
  /-- `handle_connection_ready()` ran -/
  | ready (generation : Nat)
  /-- `connect_handler` was called -/
  | answered (handler : HandlerId) (ec : Option ErrorCode)
  /-- `connect()` rejected a handler -/
  | rejected (handler : HandlerId)
  /-- the reconnect timer was armed -/
  | scheduled (delay : Int)
  deriving DecidableEq, Repr

def SessionObs.asPrepared : SessionObs → Option Nat
  | .prepared _ generation => some generation
  | _ => none

def SessionObs.asReady : SessionObs → Option Nat
  | .ready generation => some generation
  | _ => none

/-! ## The session -/

/-- The fields of the subclass, and a record. A wait of the reconnect timer
carries its generation. -/
structure Session where
  reconnectTimer : SteadyTimer Nat
  connectHandler : Option HandlerId
  prepareConnection : Option HandlerId
  initialReconnectDelay : Int
  maxReconnectDelay : Int
  currentReconnectDelay : Int
  reconnectState : State
  connectionGeneration : Nat
  log : List SessionObs

namespace Session

def create (now : Int) : Session where
  reconnectTimer := ⟨now, []⟩
  connectHandler := none
  prepareConnection := none
  initialReconnectDelay := seconds 1
  maxReconnectDelay := seconds 60
  currentReconnectDelay := seconds 1
  reconnectState := .idle
  connectionGeneration := 0
  log := []

def record (s : Session) (o : SessionObs) : Session := { s with log := s.log ++ [o] }

/-- The generations of the ready callbacks that were handed out. -/
def prepared (s : Session) : List Nat := s.log.filterMap SessionObs.asPrepared

/-- The generations `handle_connection_ready()` ran for. -/
def ready (s : Session) : List Nat := s.log.filterMap SessionObs.asReady

def setReconnectState (s : Session) (state : State) : Session := { s with reconnectState := state }

def isReconnectActive (s : Session) : Bool :=
  s.reconnectState = .connecting || s.reconnectState = .connected ||
    s.reconnectState = .waitingReconnect

def scheduleReconnect (s : Session) (now : Int) : Session :=
  if !s.isReconnectActive then s
  else
    let s := s.setReconnectState .waitingReconnect
    -- the delay in force is the one that was set up last time
    let delay := s.currentReconnectDelay
    { s with
      currentReconnectDelay := min (s.currentReconnectDelay * 2) s.maxReconnectDelay
      reconnectTimer :=
        (s.reconnectTimer.expiresAt (now + delay)).asyncWait s.connectionGeneration
      log := s.log ++ [.scheduled delay] }

def stopReconnecting (s : Session) : Session :=
  -- handlers that are still queued carry the old generation
  { s with
    connectionGeneration := s.connectionGeneration + 1
    reconnectState := .idle
    reconnectTimer := s.reconnectTimer.cancel
    connectHandler := none
    prepareConnection := none
    currentReconnectDelay := s.initialReconnectDelay }

/-- The body posted by `set_initial_reconnect_delay()`. -/
def setInitialReconnectDelay (s : Session) (delay : Int) : Session :=
  let s := { s with initialReconnectDelay := delay }
  if s.reconnectState = .idle then { s with currentReconnectDelay := delay } else s

/-- The body posted by `set_max_reconnect_delay()`. -/
def setMaxReconnectDelay (s : Session) (delay : Int) : Session :=
  let s := { s with maxReconnectDelay := delay }
  { s with currentReconnectDelay := min s.currentReconnectDelay delay }

end Session

/-! ## The callbacks of the base client -/

variable {U : Type}

/-- The owner of the base client: the subclass, and the state of its user. -/
structure Owner (U : Type) where
  session : Session
  user : U

/-- The user's callbacks. `prepare` is also passed the generation of the ready
callback it is given. -/
structure UserCallbacks (U : Type) where
  prepare : HandlerId → Nat → Callback U
  connect : HandlerId → Option ErrorCode → Callback U
  write : HandlerId → Option ErrorCode → Callback U
  close : HandlerId → Callback U
  message : HandlerId → List UInt8 → Callback U
  ping : HandlerId → Int → U → (U × List (List UInt8)) × List UInt8
  disconnect : HandlerId → ErrorCode → Callback U

/-- User callbacks that do nothing. -/
def UserCallbacks.silent : UserCallbacks U where
  prepare _ _ _ user := (user, [])
  connect _ _ _ user := (user, [])
  write _ _ _ user := (user, [])
  close _ _ user := (user, [])
  message _ _ _ user := (user, [])
  ping _ _ user := ((user, []), [])
  disconnect _ _ _ user := (user, [])

/-- Call the user. -/
def call (f : Callback U) : Callback (Owner U) := fun now o =>
  ({ o with user := (f now o.user).1 }, (f now o.user).2)

variable (u : UserCallbacks U)

def startConnectAttempt : Callback (Owner U) := fun now o =>
  let generation := o.session.connectionGeneration + 1
  let s := { o.session.setReconnectState .connecting with connectionGeneration := generation }
  match s.prepareConnection with
  -- without `prepare_connection` there is no ready callback, and the session stays connecting
  | none => ({ o with session := s }, [])
  | some h =>
    call (u.prepare h generation) now { o with session := s.record (.prepared h generation) }

/-- `if (connect_handler) connect_handler(ec);` -/
def callConnectHandler (ec : Option ErrorCode) : Callback (Owner U) := fun now o =>
  match o.session.connectHandler with
  | none => (o, [])
  | some h =>
    call (u.connect h ec) now { o with session := o.session.record (.answered h ec) }

def handleConnectResult (generation : Nat) (ec : Option ErrorCode) : Callback (Owner U) :=
  fun now o =>
    if generation ≠ o.session.connectionGeneration ∨ o.session.reconnectState ≠ .connecting then
      (o, [])
    else
      match ec with
      | some e =>
        -- the handler hears of the error before the next attempt is scheduled
        let (o, messages) := callConnectHandler u (some e) now o
        ({ o with session := o.session.scheduleReconnect now }, messages)
      | none =>
        -- a connection that came up starts the delays over
        let s := { o.session with currentReconnectDelay := o.session.initialReconnectDelay }
        callConnectHandler u none now { o with session := s.setReconnectState .connected }

/-- `on_unexpected_disconnect()`, with the handler the base calls. -/
def onUnexpectedDisconnect (disconnectHandler : Option HandlerId) (ec : ErrorCode) :
    Callback (Owner U) := fun now o =>
  let shouldReconnect := o.session.reconnectState = .connected
  -- the state was read before the user's handler runs
  let (o, messages) := match disconnectHandler with
    | none => (o, [])
    | some h => call (u.disconnect h ec) now o
  if shouldReconnect then ({ o with session := o.session.scheduleReconnect now }, messages)
  else (o, messages)

def handleReconnectTimer (generation : Nat) (status : WaitStatus) : Callback (Owner U) :=
  fun now o =>
    if status = .aborted ∨ generation ≠ o.session.connectionGeneration ∨
        o.session.reconnectState ≠ .waitingReconnect then (o, [])
    else startConnectAttempt u now o

/-- The body posted by `connect()`. -/
def connect (prepareConnection handler : Option HandlerId) : Callback (Owner U) := fun now o =>
  if o.session.reconnectState ≠ .idle then
    match handler with
    | none => (o, [])
    | some h =>
      call (u.connect h (some (.errc .alreadyConnected))) now
        { o with session := o.session.record (.rejected h) }
  else
    startConnectAttempt u now { o with session := { o.session with
      prepareConnection := prepareConnection
      connectHandler := handler
      currentReconnectDelay :=
        min o.session.initialReconnectDelay o.session.maxReconnectDelay } }

/-- What the base client calls. -/
def callbacks : Callbacks Nat (Owner U) where
  connect generation ec := handleConnectResult u generation ec
  write h ec := call (u.write h ec)
  close h := call (u.close h)
  message h bytes := call (u.message h bytes)
  ping h now o :=
    (call (fun now user => (u.ping h now user).1) now o, (u.ping h now o.user).2)
  onUnexpectedDisconnect handler ec := onUnexpectedDisconnect u handler ec

/-! ## The client -/

/-- A reconnecting client. -/
abbrev ReconnectingClient (U : Type) := Client Nat (Owner U)

def setSession (c : ReconnectingClient U) (s : Session) : ReconnectingClient U :=
  { c with owner := { c.owner with session := s } }

def handleConnectionReady (c : ReconnectingClient U) (generation : Nat)
    (host port resource : String) : ReconnectingClient U :=
  if generation ≠ c.owner.session.connectionGeneration ∨
      c.owner.session.reconnectState ≠ .connecting then c
  else
    { c with host := host, port := port, resource := resource }.doConnect (callbacks u)
      (some generation)

/-- The body posted by `close()`. -/
def close (c : ReconnectingClient U) (handler : Option HandlerId) : ReconnectingClient U :=
  (setSession c c.owner.session.stopReconnecting).close (callbacks u) handler

/-- What can happen next. -/
inductive Event where
  | connect (prepareConnection handler : Option HandlerId)
  | close (handler : Option HandlerId)
  | setInitialReconnectDelay (delay : Int)
  | setMaxReconnectDelay (delay : Int)
  /-- the handler posted by a ready callback -/
  | ready (generation : Nat) (host port resource : String)
  | fireReconnectTimer (w : Wait Nat)
  | reconnectTimer (w : Wait Nat)
  /-- a step of the base client -/
  | base (e : SecureWebSocketClient.Event Nat)
  deriving DecidableEq

/-- The steps of the base client that are those of the subclass. -/
def isInherited : SecureWebSocketClient.Event Nat → Bool
  | .assign _ => false
  | .connect _ => false
  | .close _ => false
  | _ => true

def step (c : ReconnectingClient U) : Event → Option (ReconnectingClient U)
  | .connect prepareConnection handler =>
    some (c.runCallback (connect u prepareConnection handler))
  | .close handler => some (close u c handler)
  | .setInitialReconnectDelay delay =>
    some (setSession c (c.owner.session.setInitialReconnectDelay delay))
  | .setMaxReconnectDelay delay =>
    some (setSession c (c.owner.session.setMaxReconnectDelay delay))
  | .ready generation host port resource =>
    -- a ready callback can run only if it was handed out, and then any number of times
    if generation ∈ c.owner.session.prepared then
      some (handleConnectionReady u (setSession c (c.owner.session.record (.ready generation)))
        generation host port resource)
    else none
  | .fireReconnectTimer w =>
    (c.owner.session.reconnectTimer.fire w c.now).map fun t =>
      setSession c { c.owner.session with reconnectTimer := t }
  | .reconnectTimer w =>
    (c.owner.session.reconnectTimer.deliver w).map fun t =>
      (setSession c { c.owner.session with reconnectTimer := t }).runCallback
        (handleReconnectTimer u w.tag w.status)
  | .base e => if isInherited e then c.step (callbacks u) e else none

/-- A reconnecting client and its surroundings. -/
def system : System (ReconnectingClient U) Event where
  init c := ∃ user now, c = Client.create ⟨Session.create now, user⟩ now
  step := step u

/-! ## What a step can do -/

/-- One case for each event: what allows it and what it leads to. -/
inductive StepSpec (c : ReconnectingClient U) : Event → ReconnectingClient U → Prop where
  | connect (prepareConnection handler : Option HandlerId) :
    StepSpec c (.connect prepareConnection handler)
      (c.runCallback (connect u prepareConnection handler))
  | close (handler : Option HandlerId) : StepSpec c (.close handler) (close u c handler)
  | setInitialReconnectDelay (delay : Int) :
    StepSpec c (.setInitialReconnectDelay delay)
      (setSession c (c.owner.session.setInitialReconnectDelay delay))
  | setMaxReconnectDelay (delay : Int) :
    StepSpec c (.setMaxReconnectDelay delay)
      (setSession c (c.owner.session.setMaxReconnectDelay delay))
  | ready (generation : Nat) (host port resource : String)
      (hprepared : generation ∈ c.owner.session.prepared) :
    StepSpec c (.ready generation host port resource)
      (handleConnectionReady u (setSession c (c.owner.session.record (.ready generation)))
        generation host port resource)
  | fireReconnectTimer (w : Wait Nat) (t : SteadyTimer Nat)
      (hfire : c.owner.session.reconnectTimer.fire w c.now = some t) :
    StepSpec c (.fireReconnectTimer w) (setSession c { c.owner.session with reconnectTimer := t })
  | reconnectTimer (w : Wait Nat) (t : SteadyTimer Nat)
      (hdeliver : c.owner.session.reconnectTimer.deliver w = some t) :
    StepSpec c (.reconnectTimer w)
      ((setSession c { c.owner.session with reconnectTimer := t }).runCallback
        (handleReconnectTimer u w.tag w.status))
  | base (e : SecureWebSocketClient.Event Nat) (c' : ReconnectingClient U)
      (hinherited : isInherited e = true) (hbase : c.step (callbacks u) e = some c') :
    StepSpec c (.base e) c'

variable {u}

theorem step_spec {c c' : ReconnectingClient U} {e : Event} (hstep : step u c e = some c') :
    StepSpec u c e c' := by
  cases e with
  | connect prepareConnection handler => cases hstep; exact .connect prepareConnection handler
  | close handler => cases hstep; exact .close handler
  | setInitialReconnectDelay delay => cases hstep; exact .setInitialReconnectDelay delay
  | setMaxReconnectDelay delay => cases hstep; exact .setMaxReconnectDelay delay
  | ready generation host port resource =>
    simp only [step] at hstep
    split at hstep
    · rename_i hprepared
      cases hstep
      exact .ready generation host port resource hprepared
    · cases hstep
  | fireReconnectTimer w =>
    obtain ⟨t, hfire, rfl⟩ := Option.map_eq_some_iff.mp hstep
    exact .fireReconnectTimer w t hfire
  | reconnectTimer w =>
    obtain ⟨t, hdeliver, rfl⟩ := Option.map_eq_some_iff.mp hstep
    exact .reconnectTimer w t hdeliver
  | base e =>
    simp only [step] at hstep
    split at hstep
    · rename_i hinherited
      exact .base e c' hinherited hstep
    · cases hstep

end CppComponents.ReconnectingSecureWebSocketClient
