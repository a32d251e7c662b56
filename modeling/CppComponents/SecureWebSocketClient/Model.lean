import CppComponents.ErrorCode
import CppComponents.FixedRingBuffer
import CppComponents.FlatStaticBuffer
import CppComponents.SteadyTimer

/-!
# The WebSocket client

`SecureWebSocketClient` keeps one connection: it resolves a host, connects,
does the TLS and the WebSocket handshake, then reads messages and sends what
is queued in `write_slots`, one write at a time. Everything it does runs on the
executor thread; the public methods post to it. The exception is `connect()`,
which stores the target in the client before it posts.

The model has the client's fields, plus what surrounds the client:

- `ops`: the asynchronous operations that were started and whose completion
  handler has not run. A cancelled operation stays there until it completes;
- `owner`: the state of whoever owns the client's callbacks. A callback sees
  the clock and its own state, may change that state, and may call
  `write_now()`, which is the one method that acts before it returns. Since `σ`
  and the callbacks are arbitrary, so is the user's code: what a callback
  decides after it looked at the client is in the state of some owner. The
  other methods post, so what a callback does with them is a later step.
  `connect()` stores the target first; nothing reads the target after running a
  callback, so that is a step of its own too (`assign`). A subclass is an owner
  as well: `ReconnectingSecureWebSocketClient` keeps its fields there;
- `trace`: what has happened so far, for theorems about whole runs. Nothing in
  the client reads it. `attempt` counts the accepted `connect()` calls and is
  carried by the operations of an attempt, again for theorems only.

Each function is the function of the source of the same name. Counters that
the source keeps in 64 bits and only increments (`write_generation`) are
natural numbers; times and durations are integers, in nanoseconds.
-/

namespace CppComponents.SecureWebSocketClient

open CppComponents.Transition

/-- A user's callback object. -/
abbrev HandlerId := Nat

inductive ConnectionState where
  | disconnected
  | connecting
  | connected
  | closing
  deriving DecidableEq, Repr

inductive WriteType where
  | message
  | ping
  deriving DecidableEq, Repr

def readBufferSize : Nat := 64 * 1024
def readPadding : Nat := 64
/-- `write_slot_count` is 2048, as a power of two. -/
def writeSlotCountLog : Nat := 11
def writeSlotSize : Nat := 8 * 1024
/-- Delay before retrying a ping that found all write slots in use: 100 ms. -/
def pingRetryDelay : Int := 100 * 10 ^ 6
/-- `std::chrono::seconds` to nanoseconds. -/
def seconds (n : Int) : Int := n * 10 ^ 9

/-! ## Writes -/

/-- A queued write, stored in place. -/
structure WriteSlot where
  type : WriteType
  data : Fin writeSlotSize → UInt8
  size : Nat
  handler : Option HandlerId

/-- What a write asks for: the operation, its bytes and its handler. -/
structure WriteItem where
  type : WriteType
  message : List UInt8
  handler : Option HandlerId
  deriving DecidableEq, Repr

/-- The bytes of `net::buffer(slot.data.data(), slot.size)`. -/
def WriteSlot.payload (slot : WriteSlot) : List UInt8 :=
  (List.range slot.size).filterMap fun i =>
    if h : i < writeSlotSize then some (slot.data ⟨i, h⟩) else none

/-- The write a slot holds. A ping is sent without the slot's bytes. -/
def WriteSlot.item (slot : WriteSlot) : WriteItem where
  type := slot.type
  message := match slot.type with
    | .message => slot.payload
    | .ping => []
  handler := slot.handler

/-- Fill a slot in place: `std::copy` overwrites the front of `data`. -/
def WriteSlot.fill (slot : WriteSlot) (item : WriteItem) : WriteSlot where
  type := item.type
  data := fun i => item.message.getD i (slot.data i)
  size := item.message.length
  handler := item.handler

/-- `slot.handler = nullptr`. -/
def WriteSlot.clearHandler (slot : WriteSlot) : WriteSlot := { slot with handler := none }

/-- Room for a message of `read_buffer_size` bytes and the padding behind it. -/
abbrev ReadBuffer := FlatStaticBuffer (readBufferSize + readPadding)

/-! ## Operations, callbacks and the trace -/

variable {H σ : Type}

/-- The operations of a connect attempt, in the order they are chained. -/
inductive Phase where
  | resolve
  | connect
  | sslHandshake
  | websocketHandshake
  deriving DecidableEq, Repr

/-- An asynchronous operation with what its completion handler captures.
`stream` is the stream object it was started on. -/
inductive Op (H : Type) where
  | connect (stream : Nat) (phase : Phase) (attempt : Nat) (handler : Option H)
  | read (stream : Nat)
  /-- an `async_write` of the bytes of slot `slot`, or an `async_ping` -/
  | send (stream : Nat) (generation : Nat) (slot : Fin (2 ^ writeSlotCountLog))
      (item : WriteItem)
  deriving DecidableEq

/-- What an operation completes with: its error code; the results of the three
set-up calls of `handle_connect()`; the bytes a read appended to the buffer. -/
structure Completion where
  ec : Option AsioError := none
  noDelay : Option AsioError := none
  serverName : Option AsioError := none
  verifyCallback : Option AsioError := none
  received : List UInt8 := []
  deriving DecidableEq, Repr

/-- The member assignments of `connect()`. -/
inductive Assign where
  | host (value : String)
  | port (value : String)
  | resource (value : String)
  deriving DecidableEq, Repr

/-- A callback: from the clock and the owner's state to the owner's new state
and the messages it passes to `write_now()`. -/
abbrev Callback (σ : Type) := Int → σ → σ × List (List UInt8)

/-- The code behind the client's callbacks. `onUnexpectedDisconnect` is the
virtual method; it is passed `disconnect_handler`. -/
structure Callbacks (H σ : Type) where
  connect : H → Option ErrorCode → Callback σ
  write : HandlerId → Option ErrorCode → Callback σ
  close : HandlerId → Callback σ
  message : HandlerId → List UInt8 → Callback σ
  /-- a ping message generator also returns the message -/
  ping : HandlerId → Int → σ → (σ × List (List UInt8)) × List UInt8
  onUnexpectedDisconnect : Option HandlerId → ErrorCode → Callback σ

/-- Callbacks that do nothing. -/
def Callbacks.silent : Callbacks H σ where
  connect _ _ _ owner := (owner, [])
  write _ _ _ owner := (owner, [])
  close _ _ owner := (owner, [])
  message _ _ _ owner := (owner, [])
  ping _ _ owner := ((owner, []), [])
  onUnexpectedDisconnect _ _ _ owner := (owner, [])

/-- Where a connect attempt reads its target. -/
inductive TargetUse where
  | resolve (host port : String)
  | serverName (host : String)
  | verification (host : String)
  | websocketHandshake (host resource : String)
  deriving DecidableEq, Repr

/-- What is recorded of a connect attempt. -/
inductive AttemptObs (H : Type) where
  /-- `do_connect()` accepted it -/
  | accepted (n : Nat) (handler : Option H)
  /-- it made the state `connected` -/
  | connected (n : Nat)
  /-- `close()` ended it -/
  | closed (n : Nat)
  /-- its connect handler was called -/
  | answered (n : Nat) (handler : H) (ec : Option ErrorCode)
  deriving DecidableEq

/-- What is recorded of the writes. -/
inductive WriteObs where
  /-- a connection was established -/
  | opened (generation : Nat)
  /-- `do_write()` ran -/
  | submitted (handler : Option HandlerId)
  | rejected (handler : HandlerId) (code : Errc)
  | accepted (generation : Nat) (item : WriteItem)
  | started (generation : Nat) (item : WriteItem)
  /-- a write of the current connection completed -/
  | completed (item : WriteItem) (ec : Option AsioError)
  /-- `fail_pending_writes()` released a slot -/
  | drained (item : WriteItem)
  /-- a write handler was called -/
  | answered (handler : HandlerId) (ec : Option ErrorCode)
  deriving DecidableEq, Repr

/-- What is recorded of a run. -/
inductive Obs (H : Type) where
  | attempt (o : AttemptObs H)
  | write (o : WriteObs)
  | target (attempt : Nat) (use : TargetUse)
  /-- `do_connect()` rejected a handler -/
  | rejectedConnect (handler : H)
  /-- the message handler was called with the bytes of the buffer -/
  | message (buffer : ReadBuffer)
  | disconnect (ec : ErrorCode)
  | closeHandler (handler : HandlerId)
  deriving DecidableEq

/-- A `WebSocketStream`, identified by how many were created before it. -/
structure Stream where
  id : Nat
  deriving DecidableEq, Repr

structure Client (H σ : Type) where
  host : String
  port : String
  resource : String
  ws : Option Stream
  pingTimer : SteadyTimer Unit
  readTimer : SteadyTimer Unit
  readBuffer : ReadBuffer
  writeSlots : FixedRingBuffer WriteSlot writeSlotCountLog
  writeGeneration : Nat
  writeInProgress : Bool
  state : ConnectionState
  messageHandler : Option HandlerId
  disconnectHandler : Option HandlerId
  pingMessageGenerator : Option HandlerId
  pingInterval : Int
  readTimeout : Int
  lastReadTime : Int
  now : Int
  ops : List (Op H)
  owner : σ
  trace : List (Obs H)
  attempt : Nat

namespace Client

/-- A constructed client. -/
def create (owner : σ) (now : Int) : Client H σ where
  host := ""
  port := ""
  resource := ""
  ws := none
  pingTimer := ⟨now, []⟩
  readTimer := ⟨now, []⟩
  readBuffer := .empty
  writeSlots := .emptyAt (fun _ => ⟨.message, fun _ => 0, 0, none⟩) 0
  writeGeneration := 0
  writeInProgress := false
  state := .disconnected
  messageHandler := none
  disconnectHandler := none
  pingMessageGenerator := none
  pingInterval := 0
  readTimeout := 0
  lastReadTime := 0
  now := now
  ops := []
  owner := owner
  trace := []
  attempt := 0

def isConnected (c : Client H σ) : Bool := c.state = .connected

def isConnecting (c : Client H σ) : Bool := c.state = .connecting

def setState (c : Client H σ) (state : ConnectionState) : Client H σ :=
  { c with state := state }

def log (c : Client H σ) (o : Obs H) : Client H σ := { c with trace := c.trace ++ [o] }

/-- `if (!is_connecting() || !ws) return;` in front of `k`. -/
def ifConnecting (c : Client H σ) (k : Stream → Client H σ) : Client H σ :=
  match c.ws with
  | none => c
  | some ws => if c.isConnecting then k ws else c

/-! ## Queueing and starting writes -/

def startWrite (c : Client H σ) : Client H σ :=
  match c.ws with
  | none => c
  | some ws =>
    if c.writeInProgress || c.writeSlots.isEmpty then c
    else
      let item := c.writeSlots.getFront.item
      let slot := FixedRingBuffer.getIndex writeSlotCountLog c.writeSlots.head
      { c with
        writeInProgress := true
        ops := c.ops ++ [.send ws.id c.writeGeneration slot item]
        trace := c.trace ++ [.write (.started c.writeGeneration item)] }

/-- The checks of `queue_write()`. -/
def queueWriteError (c : Client H σ) (item : WriteItem) : Option Errc :=
  if c.state ≠ .connected ∨ c.ws = none then some .notConnected
  else if item.message.length > writeSlotSize then some .messageSize
  else if c.writeSlots.isFull then some .noBufferSpace
  else none

/-- `queue_write()`: fill the back slot in place and push it. -/
def storeWrite (c : Client H σ) (item : WriteItem) : Client H σ :=
  { c with
    writeSlots := (c.writeSlots.setBackSlot (c.writeSlots.getBackSlot.fill item)).pushBack
    trace := c.trace ++ [.write (.accepted c.writeGeneration item)] }

/-- `queue_write()`: the error if the write could not be queued. -/
def queueWrite (c : Client H σ) (item : WriteItem) : Option Errc × Client H σ :=
  match c.queueWriteError item with
  | some code => (some code, c)
  | none => (none, (c.storeWrite item).startWrite)

/-- `write_now()`; `inThread` is `running_in_this_thread()`. -/
def writeNow (c : Client H σ) (inThread : Bool) (message : List UInt8) :
    Option Errc × Client H σ :=
  if !inThread then (some .operationNotPermitted, c)
  else c.queueWrite ⟨.message, message, none⟩

def assign (c : Client H σ) : Assign → Client H σ
  | .host value => { c with host := value }
  | .port value => { c with port := value }
  | .resource value => { c with resource := value }

/-! ## Running callbacks -/

def writeAll (c : Client H σ) (messages : List (List UInt8)) : Client H σ :=
  messages.foldl (fun c message => (c.writeNow true message).2) c

/-- Run a callback: the owner's state changes, then its writes take effect. -/
def runCallback (c : Client H σ) (f : Callback σ) : Client H σ :=
  writeAll { c with owner := (f c.now c.owner).1 } (f c.now c.owner).2

/-- **The callback rule.** What holds with the owner's new state and is kept by
`write_now()` holds after a callback. -/
theorem runCallback_rule {P : Client H σ → Prop} {c : Client H σ} (f : Callback σ)
    (howner : P { c with owner := (f c.now c.owner).1 })
    (hwrite : ∀ (c : Client H σ) message, P c → P (c.writeNow true message).2) :
    P (c.runCallback f) :=
  List.foldlRecOn (motive := P) (f c.now c.owner).2 _ howner fun c h message _ =>
    hwrite c message h

variable (cb : Callbacks H σ)

/-- `if (handler) handler(ec);` for the connect handler of an attempt. -/
def callConnectHandler (c : Client H σ) (attempt : Nat) (handler : Option H)
    (ec : Option ErrorCode) : Client H σ :=
  match handler with
  | none => c
  | some h => (c.log (.attempt (.answered attempt h ec))).runCallback (cb.connect h ec)

def callWriteHandler (c : Client H σ) (handler : Option HandlerId)
    (ec : Option ErrorCode) : Client H σ :=
  match handler with
  | none => c
  | some h => (c.log (.write (.answered h ec))).runCallback (cb.write h ec)

def callCloseHandler (c : Client H σ) (handler : Option HandlerId) : Client H σ :=
  match handler with
  | none => c
  | some h => (c.log (.closeHandler h)).runCallback (cb.close h)

/-- `if (message_handler) …` of `handle_read()`. -/
def callMessageHandler (c : Client H σ) : Client H σ :=
  match c.messageHandler with
  | none => c
  | some h => (c.log (.message c.readBuffer)).runCallback (cb.message h c.readBuffer.bytes)

/-! ## Timers -/

/-- `last_read_time = std::chrono::steady_clock::now();` -/
def setLastReadTime (c : Client H σ) : Client H σ := { c with lastReadTime := c.now }

def startPingTimer (c : Client H σ) (delay : Int) : Client H σ :=
  if c.pingInterval ≤ 0 ∨ c.state ≠ .connected then c
  else { c with pingTimer := (c.pingTimer.expiresAt (c.now + delay)).asyncWait () }

def stopPingTimer (c : Client H σ) : Client H σ :=
  { c with pingTimer := c.pingTimer.cancel }

def startReadTimer (c : Client H σ) : Client H σ :=
  if c.readTimeout ≤ 0 ∨ c.state ≠ .connected then c
  else { c with
    readTimer := (c.readTimer.expiresAt (c.lastReadTime + seconds c.readTimeout)).asyncWait () }

def stopReadTimer (c : Client H σ) : Client H σ :=
  { c with readTimer := c.readTimer.cancel }

/-! ## Closing -/

/-- `cancel_pending_operations()`. The cancelled operations of the resolver and
the stream complete later, so they stay in `ops`. -/
def cancelPendingOperations (c : Client H σ) : Client H σ :=
  c.stopPingTimer.stopReadTimer

/-- One iteration of the loop of `fail_pending_writes()`. -/
def drainOne (c : Client H σ) : Client H σ :=
  let slot := c.writeSlots.getFront
  callWriteHandler cb
    { c with
      writeSlots := (c.writeSlots.setFront slot.clearHandler).popFront
      trace := c.trace ++ [.write (.drained slot.item)] }
    slot.handler (some (.errc .operationCanceled))

/-- `while (!write_slots.is_empty()) { … }`, for at most `fuel` iterations. -/
def drain (c : Client H σ) : Nat → Client H σ
  | 0 => c
  | fuel + 1 => if c.writeSlots.isEmpty then c else drain (c.drainOne cb) fuel

def failPendingWrites (c : Client H σ) : Client H σ :=
  drain cb { c with writeGeneration := c.writeGeneration + 1, writeInProgress := false }
    c.writeSlots.getSize

/-- `do_close()`. Closing the socket and the Beast timeouts leave no trace in
the client's fields; `ws` is kept for the operations that are pending on it. -/
def doClose (c : Client H σ) (handler : Option HandlerId) : Client H σ :=
  if c.state = .connected ∨ c.state = .connecting then
    let c := (c.setState .closing).cancelPendingOperations
    -- the handlers of the queued writes run while the client is closing
    let c := c.failPendingWrites cb
    (c.setState .disconnected).callCloseHandler cb handler
  else c.callCloseHandler cb handler

def failConnection (c : Client H σ) (attempt : Nat) (handler : Option H)
    (ec : ErrorCode) : Client H σ :=
  (c.doClose cb none).callConnectHandler cb attempt handler (some ec)

def onUnexpectedDisconnect (c : Client H σ) (ec : ErrorCode) : Client H σ :=
  (c.log (.disconnect ec)).runCallback (cb.onUnexpectedDisconnect c.disconnectHandler ec)

def handleUnexpectedDisconnect (c : Client H σ) (ec : ErrorCode) : Client H σ :=
  if c.state ≠ .connected then c
  else (c.doClose cb none).onUnexpectedDisconnect cb ec

/-! ## Connecting -/

/-- `create_stream()`. The new stream is the one of the attempt being started. -/
def createStream (c : Client H σ) : Client H σ :=
  { c with
    readBuffer := c.readBuffer.consume c.readBuffer.size
    ws := some ⟨c.attempt⟩ }

/-- Start the next operation of attempt `attempt`. -/
def startPhase (c : Client H σ) (ws : Stream) (phase : Phase) (attempt : Nat)
    (handler : Option H) : Client H σ :=
  { c with ops := c.ops ++ [.connect ws.id phase attempt handler] }

def doConnect (c : Client H σ) (handler : Option H) : Client H σ :=
  if c.state ≠ .disconnected then
    -- without a handler nobody learns that the connect was rejected
    match handler with
    | none => c
    | some h => (c.log (.rejectedConnect h)).runCallback
        (cb.connect h (some (.errc .alreadyConnected)))
  else
    let n := c.attempt + 1
    let c := { c.setState .connecting with attempt := n }.createStream
    let c := (c.log (.attempt (.accepted n handler))).log (.target n (.resolve c.host c.port))
    c.startPhase ⟨n⟩ .resolve n handler

def handleResolve (c : Client H σ) (attempt : Nat) (handler : Option H) (r : Completion) :
    Client H σ :=
  c.ifConnecting fun ws =>
    match r.ec with
    | some e => c.failConnection cb attempt handler (.asio e)
    | none => c.startPhase ws .connect attempt handler

def handleConnect (c : Client H σ) (attempt : Nat) (handler : Option H) (r : Completion) :
    Client H σ :=
  c.ifConnecting fun ws =>
    match r.ec with
    | some e => c.failConnection cb attempt handler (.asio e)
    | none =>
      -- the set-up calls can fail before the handshake is started
      match r.noDelay with
      | some e => c.failConnection cb attempt handler (.asio e)
      | none =>
        let c := c.log (.target attempt (.serverName c.host))
        match r.serverName with
        | some e => c.failConnection cb attempt handler (.asio e)
        | none =>
          let c := c.log (.target attempt (.verification c.host))
          match r.verifyCallback with
          | some e => c.failConnection cb attempt handler (.asio e)
          | none => c.startPhase ws .sslHandshake attempt handler

def handleSslHandshake (c : Client H σ) (attempt : Nat) (handler : Option H)
    (r : Completion) : Client H σ :=
  c.ifConnecting fun ws =>
    match r.ec with
    | some e => c.failConnection cb attempt handler (.asio e)
    | none =>
      let c := c.log (.target attempt (.websocketHandshake c.host c.resource))
      c.startPhase ws .websocketHandshake attempt handler

/-! ## Reading -/

/-- `read_buffer.consume(read_buffer.size());` -/
def consumeReadBuffer (c : Client H σ) : Client H σ :=
  { c with readBuffer := c.readBuffer.consume c.readBuffer.size }

def startRead (c : Client H σ) : Client H σ :=
  match c.ws with
  | none => c
  | some ws => if c.isConnected then { c with ops := c.ops ++ [.read ws.id] } else c

def handleRead (c : Client H σ) (r : Completion) : Client H σ :=
  if !c.isConnected then c
  else
    match r.ec with
    | some e => c.handleUnexpectedDisconnect cb (.asio e)
    -- the handler reads the buffer in place, so it is consumed afterwards
    | none =>
      (c.setLastReadTime.callMessageHandler cb).consumeReadBuffer.startRead

def handleWebsocketHandshake (c : Client H σ) (attempt : Nat) (handler : Option H)
    (r : Completion) : Client H σ :=
  c.ifConnecting fun _ =>
    match r.ec with
    | some e => c.failConnection cb attempt handler (.asio e)
    | none =>
      let c := (c.setState .connected).log (.attempt (.connected attempt))
      let c := c.log (.write (.opened c.writeGeneration))
      -- the handler runs while nothing is read and no timer is armed
      let c := c.callConnectHandler cb attempt handler none
      let c := c.setLastReadTime.startReadTimer.startRead
      c.startPingTimer (seconds c.pingInterval)

/-! ## Writing -/

def doWrite (c : Client H σ) (message : List UInt8) (handler : Option HandlerId) :
    Option Errc × Client H σ :=
  match (c.log (.write (.submitted handler))).queueWrite ⟨.message, message, handler⟩ with
  | (none, c) => (none, c)
  | (some code, c) =>
    match handler with
    | none => (some code, c)
    | some h =>
      (some code, (c.log (.write (.rejected h code))).callWriteHandler cb handler
        (some (.errc code)))

def doProtocolPing (c : Client H σ) : Option Errc × Client H σ :=
  c.queueWrite ⟨.ping, [], none⟩

/-- `handle_write()`: empty the front slot and pop it. -/
def releaseFront (c : Client H σ) : Client H σ :=
  { c with
    writeSlots := (c.writeSlots.setFront c.writeSlots.getFront.clearHandler).popFront
    writeInProgress := false }

/-- `handle_write()`: what follows the call of the handler. -/
def continueWriting (c : Client H σ) (ec : Option AsioError) : Client H σ :=
  match ec with
  | some e => c.handleUnexpectedDisconnect cb (.asio e)
  | none => c.startWrite

def handleWrite (c : Client H σ) (generation : Nat) (r : Completion) : Client H σ :=
  -- the slots of an earlier connection were released by `fail_pending_writes()`
  if generation ≠ c.writeGeneration ∨ !c.isConnected then c
  else
    let handler := c.writeSlots.getFront.handler
    (c.releaseFront.callWriteHandler cb handler (AsioError.toErrorCode r.ec)).continueWriting cb
      r.ec

/-! ## Timer completions and settings -/

def handlePingTimer (c : Client H σ) (status : WaitStatus) : Client H σ :=
  if status = .aborted ∨ c.state ≠ .connected ∨ c.pingInterval ≤ 0 then c
  else
    let (code, c) := match c.pingMessageGenerator with
      | some h =>
        let message := (cb.ping h c.now c.owner).2
        (c.runCallback fun now owner => (cb.ping h now owner).1).doWrite cb message none
      | none => c.doProtocolPing
    -- full slots are tried again soon; other errors wait for a whole interval
    c.startPingTimer (if code = some .noBufferSpace then pingRetryDelay
      else seconds c.pingInterval)

def handleReadTimeout (c : Client H σ) (status : WaitStatus) : Client H σ :=
  if status = .aborted ∨ c.state ≠ .connected ∨ c.readTimeout ≤ 0 then c
  -- a message arrived after the timer was armed
  else if c.now < c.lastReadTime + seconds c.readTimeout then c.startReadTimer
  else c.handleUnexpectedDisconnect cb (.errc .timedOut)

/-- The body posted by `set_ping_interval()`. -/
def setPingInterval (c : Client H σ) (interval : Int) : Client H σ :=
  let c := { c with pingInterval := interval }
  if !c.isConnected then c else c.stopPingTimer.startPingTimer (seconds interval)

/-- The body posted by `set_read_timeout()`. -/
def setReadTimeout (c : Client H σ) (timeout : Int) : Client H σ :=
  let c := { c with readTimeout := timeout }
  if !c.isConnected then c
  else c.setLastReadTime.stopReadTimer.startReadTimer

/-! ## The system -/

/-- An operation completes: it is no longer outstanding. -/
def removeOp [DecidableEq H] (c : Client H σ) (op : Op H) : Client H σ :=
  { c with ops := c.ops.erase op }

/-- A write of the current connection completes: that is recorded. -/
def logCompletion (c : Client H σ) (generation : Nat) (item : WriteItem)
    (ec : Option AsioError) : Client H σ :=
  if generation = c.writeGeneration ∧ c.state = .connected
  then c.log (.write (.completed item ec)) else c

/-- Run the completion handler of an operation. -/
def complete (c : Client H σ) (op : Op H) (r : Completion) : Client H σ :=
  match op with
  | .connect _ .resolve attempt handler => c.handleResolve cb attempt handler r
  | .connect _ .connect attempt handler => c.handleConnect cb attempt handler r
  | .connect _ .sslHandshake attempt handler => c.handleSslHandshake cb attempt handler r
  | .connect _ .websocketHandshake attempt handler =>
    c.handleWebsocketHandshake cb attempt handler r
  -- the stream fills the buffer before the handler runs
  | .read _ => { c with readBuffer := c.readBuffer.append r.received }.handleRead cb r
  | .send _ generation _ item =>
    (c.logCompletion generation item r.ec).handleWrite cb generation r

/-- The body posted by `close()`. -/
def close (c : Client H σ) (handler : Option HandlerId) : Client H σ :=
  if c.state = .connecting then (c.log (.attempt (.closed c.attempt))).doClose cb handler
  else c.doClose cb handler

end Client

/-- What can happen next: a callback of the executor, a step of another thread
inside `connect()`, or the passing of time. -/
inductive Event (H : Type) where
  | assign (a : Assign)
  | connect (handler : Option H)
  | close (handler : Option HandlerId)
  | write (message : List UInt8) (handler : Option HandlerId)
  | writeNow (inThread : Bool) (message : List UInt8)
  | setMessageHandler (handler : Option HandlerId)
  | setDisconnectHandler (handler : Option HandlerId)
  | setPingMessageGenerator (generator : Option HandlerId)
  | setPingInterval (interval : Int)
  | setReadTimeout (timeout : Int)
  | complete (op : Op H) (r : Completion)
  | firePingTimer (w : Wait Unit)
  | fireReadTimer (w : Wait Unit)
  | pingTimer (w : Wait Unit)
  | readTimer (w : Wait Unit)
  | advance (duration : Nat)
  deriving DecidableEq

namespace Client

variable [DecidableEq H] (cb : Callbacks H σ)

def step (c : Client H σ) : Event H → Option (Client H σ)
  | .assign a => some (c.assign a)
  | .connect handler => some (c.doConnect cb handler)
  | .close handler => some (c.close cb handler)
  | .write message handler => some (c.doWrite cb message handler).2
  | .writeNow inThread message => some (c.writeNow inThread message).2
  | .setMessageHandler handler => some { c with messageHandler := handler }
  | .setDisconnectHandler handler => some { c with disconnectHandler := handler }
  | .setPingMessageGenerator generator => some { c with pingMessageGenerator := generator }
  | .setPingInterval interval => some (c.setPingInterval interval)
  | .setReadTimeout timeout => some (c.setReadTimeout timeout)
  -- only an operation that is outstanding can complete
  | .complete op r =>
    if op ∈ c.ops then some ((c.removeOp op).complete cb op r) else none
  -- a wait expires first and its handler runs later, or it is cancelled in between
  | .firePingTimer w => (c.pingTimer.fire w c.now).map fun t => { c with pingTimer := t }
  | .fireReadTimer w => (c.readTimer.fire w c.now).map fun t => { c with readTimer := t }
  | .pingTimer w =>
    (c.pingTimer.deliver w).map fun t => { c with pingTimer := t }.handlePingTimer cb w.status
  | .readTimer w =>
    (c.readTimer.deliver w).map fun t =>
      { c with readTimer := t }.handleReadTimeout cb w.status
  | .advance duration => some { c with now := c.now + duration }

/-- A client and its surroundings. -/
def system : System (Client H σ) (Event H) where
  init c := ∃ owner now, c = create owner now
  step := step cb

end Client

end CppComponents.SecureWebSocketClient
