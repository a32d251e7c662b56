import CppComponents.SecureWebSocketClient.Model

/-!
# What reading, writing and the timers leave alone

Theorems about connecting look at a part of the client: the attempts, the
target, the fields of a subclass. Reading, writing, the timers and the user's
handlers are most of the code, and do not concern such a part unless they lose
the connection. `Frame cb V` says this of a view `V` once, by what `V` must not
see; the lemmas below say it of each function. A function that may lose the
connection ends in `handle_unexpected_disconnect()`, in a client that still
looks the same to `V`.
-/

namespace CppComponents.SecureWebSocketClient

variable {H σ α : Type}

/-- The handlers that are called apart from connecting and disconnecting. -/
inductive Callbacks.IsHandler (cb : Callbacks H σ) : Callback σ → Prop where
  | write (h : HandlerId) (ec : Option ErrorCode) : IsHandler cb (cb.write h ec)
  | close (h : HandlerId) : IsHandler cb (cb.close h)
  | message (h : HandlerId) (bytes : List UInt8) : IsHandler cb (cb.message h bytes)
  | ping (h : HandlerId) : IsHandler cb fun now owner => (cb.ping h now owner).1

/-- An operation of the reading and writing part. -/
def Op.IsTransfer : Op H → Prop
  | .connect .. => False
  | _ => True

/-- An observation of the reading and writing part, or of a handler. -/
def Obs.IsTransfer : Obs H → Prop
  | .attempt _ => False
  | .target .. => False
  | _ => True

/-- An observation apart from messages and lost connections. -/
def Obs.IsTransport : Obs H → Prop
  | .message _ => False
  | .disconnect _ => False
  | _ => True

/-- An event that concerns neither connecting nor closing. -/
def Event.IsTransfer : Event H → Prop
  | .assign _ => False
  | .connect _ => False
  | .close _ => False
  | .complete op _ => op.IsTransfer
  | _ => True

namespace Client

/-! ## Writing -/

/-- The view `V` does not see the write queue, nor what the write handlers of `cb` do
to their owner. -/
structure WriteFrame (cb : Callbacks H σ) (V : Client H σ → α) : Prop where
  writes : ∀ (c : Client H σ) writeSlots writeGeneration writeInProgress,
    V { c with
      writeSlots := writeSlots
      writeGeneration := writeGeneration
      writeInProgress := writeInProgress } = V c
  start : ∀ (c : Client H σ) stream generation slot item,
    V { c with ops := c.ops ++ [.send stream generation slot item] } = V c
  log : ∀ (c : Client H σ) o, V (c.log (.write o)) = V c
  owner : ∀ (c : Client H σ) handler ec,
    V { c with owner := (cb.write handler ec c.now c.owner).1 } = V c

namespace WriteFrame

variable {cb : Callbacks H σ} {V : Client H σ → α} (F : WriteFrame cb V)
include F

/-- A send is started from the slot at the front: an operation, a flag and the record. -/
theorem startWrite (c : Client H σ) : V c.startWrite = V c := by
  unfold Client.startWrite
  split
  · rfl
  · rename_i ws _
    split
    · rfl
    · let item := c.writeSlots.getFront.item
      let slot := FixedRingBuffer.getIndex writeSlotCountLog c.writeSlots.head
      have hstart := F.start c ws.id c.writeGeneration slot item
      have hlog := F.log { c with ops := c.ops ++ [.send ws.id c.writeGeneration slot item] }
        (.started c.writeGeneration item)
      exact (F.writes _ c.writeSlots c.writeGeneration true).trans (hlog.trans hstart)

/-- Whether a write is refused or takes a slot, `V` does not see it. -/
theorem queueWrite (c : Client H σ) (item : WriteItem) : V (c.queueWrite item).2 = V c := by
  unfold Client.queueWrite
  split
  · rfl
  · have hlog := F.log c (.accepted c.writeGeneration item)
    exact (F.startWrite _).trans
      ((F.writes _ _ c.writeGeneration c.writeInProgress).trans hlog)

/-- A callback's own `write_now()` is one more write, or none. -/
theorem writeNow (c : Client H σ) (inThread : Bool) (message : List UInt8) :
    V (c.writeNow inThread message).2 = V c := by
  unfold Client.writeNow
  split
  · rfl
  · exact F.queueWrite c _

theorem runCallback (c : Client H σ) (f : Callback σ) :
    V (c.runCallback f) = V { c with owner := (f c.now c.owner).1 } := by
  refine runCallback_rule (P := fun c' => V c' = V { c with owner := (f c.now c.owner).1 }) f rfl ?_
  intro c' message h
  exact (F.writeNow c' true message).trans h

/-- The handler of a write may act on its owner, and may write again. -/
theorem callWriteHandler (c : Client H σ) (handler : Option HandlerId) (ec : Option ErrorCode) :
    V (c.callWriteHandler cb handler ec) = V c := by
  cases handler with
  | none => rfl
  | some handler =>
    have howner := F.owner (c.log (.write (.answered handler ec))) handler ec
    exact (F.runCallback _ _).trans (howner.trans (F.log c _))

/-- `do_write()` answers with an error what it cannot queue. -/
theorem doWrite (c : Client H σ) (message : List UInt8) (handler : Option HandlerId) :
    V (c.doWrite cb message handler).2 = V c := by
  have hqueue := (F.queueWrite (c.log (.write (.submitted handler)))
    ⟨.message, message, handler⟩).trans (F.log c (.submitted handler))
  unfold Client.doWrite
  split
  · rename_i hq
    rwa [hq] at hqueue
  · rename_i code c' hq
    rw [hq] at hqueue
    split
    · exact hqueue
    · rename_i h
      have hlog := F.log c' (.rejected h code)
      have hcall := F.callWriteHandler (c'.log (.write (.rejected h code))) (some h)
        (some (.errc code))
      exact hcall.trans (hlog.trans hqueue)

/-- One turn of the loop of `fail_pending_writes()`. -/
theorem drainOne (c : Client H σ) : V (c.drainOne cb) = V c := by
  have hlog := F.log c (.drained c.writeSlots.getFront.item)
  exact (F.callWriteHandler _ _ _).trans
    ((F.writes _ _ c.writeGeneration c.writeInProgress).trans hlog)

/-- The loop, by induction on the slots that are left. -/
theorem drain : ∀ (fuel : Nat) (c : Client H σ), V (c.drain cb fuel) = V c
  | 0, _ => rfl
  | fuel + 1, c => by
    unfold Client.drain
    split
    · rfl
    · exact (drain fuel _).trans (F.drainOne c)

theorem failPendingWrites (c : Client H σ) : V (c.failPendingWrites cb) = V c :=
  (F.drain _ _).trans (F.writes c c.writeSlots _ _)

theorem releaseFront (c : Client H σ) : V c.releaseFront = V c :=
  F.writes c _ c.writeGeneration false

/-- What is recorded of a send that completes. -/
theorem logCompletion (c : Client H σ) (generation : Nat) (item : WriteItem)
    (ec : Option AsioError) : V (c.logCompletion generation item ec) = V c := by
  unfold Client.logCompletion
  split
  · exact F.log c _
  · rfl

end WriteFrame

/-! ## Reading, writing and the timers -/

/-- The view `V` does not see the reading and writing part of a client, nor what
the handlers of `cb` do to their owner. -/
structure Frame (cb : Callbacks H σ) (V : Client H σ → α) : Prop where
  fields : ∀ (c : Client H σ) pingTimer readTimer readBuffer lastReadTime writeSlots
    writeGeneration writeInProgress,
    V { c with
      pingTimer := pingTimer
      readTimer := readTimer
      readBuffer := readBuffer
      lastReadTime := lastReadTime
      writeSlots := writeSlots
      writeGeneration := writeGeneration
      writeInProgress := writeInProgress } = V c
  settings : ∀ (c : Client H σ) messageHandler disconnectHandler pingMessageGenerator
    pingInterval readTimeout now,
    V { c with
      messageHandler := messageHandler
      disconnectHandler := disconnectHandler
      pingMessageGenerator := pingMessageGenerator
      pingInterval := pingInterval
      readTimeout := readTimeout
      now := now } = V c
  start : ∀ (c : Client H σ) op, op.IsTransfer → V { c with ops := c.ops ++ [op] } = V c
  remove : ∀ [DecidableEq H] (c : Client H σ) op, op.IsTransfer → V (c.removeOp op) = V c
  log : ∀ (c : Client H σ) o, o.IsTransfer → V (c.log o) = V c
  owner : ∀ (c : Client H σ) f, cb.IsHandler f →
    V { c with owner := (f c.now c.owner).1 } = V c
  setState : ∀ (c c' : Client H σ) state, V c = V c' → V (c.setState state) = V (c'.setState state)

namespace Frame

variable {cb : Callbacks H σ} {V : Client H σ → α} (F : Frame cb V)
include F

/-- The ping timer is not seen. -/
theorem pingTimer (c : Client H σ) (t : SteadyTimer Unit) : V { c with pingTimer := t } = V c :=
  F.fields c t c.readTimer c.readBuffer c.lastReadTime c.writeSlots c.writeGeneration
    c.writeInProgress

/-- Nor is the read timer, -/
theorem readTimer (c : Client H σ) (t : SteadyTimer Unit) : V { c with readTimer := t } = V c :=
  F.fields c c.pingTimer t c.readBuffer c.lastReadTime c.writeSlots c.writeGeneration
    c.writeInProgress

/-- nor what has been received, -/
theorem readBuffer (c : Client H σ) (b : ReadBuffer) : V { c with readBuffer := b } = V c :=
  F.fields c c.pingTimer c.readTimer b c.lastReadTime c.writeSlots c.writeGeneration
    c.writeInProgress

/-- nor when. -/
theorem setLastReadTime (c : Client H σ) : V c.setLastReadTime = V c :=
  F.fields c c.pingTimer c.readTimer c.readBuffer c.now c.writeSlots c.writeGeneration
    c.writeInProgress

theorem writeFields (c : Client H σ) (slots : FixedRingBuffer WriteSlot writeSlotCountLog)
    (generation : Nat) (inProgress : Bool) :
    V { c with
      writeSlots := slots, writeGeneration := generation, writeInProgress := inProgress } = V c :=
  F.fields c c.pingTimer c.readTimer c.readBuffer c.lastReadTime slots generation inProgress

/-! ## Writing -/

/-- What does not see the whole part does not see writing. -/
theorem writing : WriteFrame cb V where
  writes := F.writeFields
  start := fun c _ _ _ _ => F.start c _ trivial
  log := fun c o => F.log c (.write o) trivial
  owner := fun c handler ec => F.owner c _ (.write handler ec)

theorem startWrite (c : Client H σ) : V c.startWrite = V c := F.writing.startWrite c

theorem queueWrite (c : Client H σ) (item : WriteItem) : V (c.queueWrite item).2 = V c :=
  F.writing.queueWrite c item

theorem writeNow (c : Client H σ) (inThread : Bool) (message : List UInt8) :
    V (c.writeNow inThread message).2 = V c :=
  F.writing.writeNow c inThread message

/-- A callback does to the view what it does to the owner. -/
theorem runCallback (c : Client H σ) (f : Callback σ) :
    V (c.runCallback f) = V { c with owner := (f c.now c.owner).1 } :=
  F.writing.runCallback c f

theorem handler (c : Client H σ) {f : Callback σ} (hf : cb.IsHandler f) :
    V (c.runCallback f) = V c :=
  (F.runCallback c f).trans (F.owner c f hf)

theorem callWriteHandler (c : Client H σ) (handler : Option HandlerId) (ec : Option ErrorCode) :
    V (c.callWriteHandler cb handler ec) = V c :=
  F.writing.callWriteHandler c handler ec

theorem doWrite (c : Client H σ) (message : List UInt8) (handler : Option HandlerId) :
    V (c.doWrite cb message handler).2 = V c :=
  F.writing.doWrite c message handler

theorem drainOne (c : Client H σ) : V (c.drainOne cb) = V c := F.writing.drainOne c

theorem failPendingWrites (c : Client H σ) : V (c.failPendingWrites cb) = V c :=
  F.writing.failPendingWrites c

theorem logCompletion (c : Client H σ) (generation : Nat) (item : WriteItem)
    (ec : Option AsioError) : V (c.logCompletion generation item ec) = V c :=
  F.writing.logCompletion c generation item ec

/-! ## Timers -/

/-- The ping timer is armed, if there is an interval. -/
theorem startPingTimer (c : Client H σ) (delay : Int) : V (c.startPingTimer delay) = V c := by
  unfold Client.startPingTimer
  split
  · rfl
  · exact F.pingTimer c _

/-- The read timer is armed, if there is a timeout. -/
theorem startReadTimer (c : Client H σ) : V c.startReadTimer = V c := by
  unfold Client.startReadTimer
  split
  · rfl
  · exact F.readTimer c _

theorem cancelPendingOperations (c : Client H σ) : V c.cancelPendingOperations = V c :=
  (F.readTimer _ _).trans (F.pingTimer c _)

/-- A ping is a write that the client makes itself, and the timer is armed again. -/
theorem handlePingTimer (c : Client H σ) (status : WaitStatus) :
    V (c.handlePingTimer cb status) = V c := by
  unfold Client.handlePingTimer
  split
  · rfl
  · refine (F.startPingTimer _ _).trans ?_
    cases c.pingMessageGenerator with
    | none => exact F.queueWrite c _
    | some handler => exact (F.doWrite _ _ _).trans (F.handler c (.ping handler))

/-! ## Closing -/

/-- A close handler is called, if there is one. -/
theorem callCloseHandler (c : Client H σ) (handler : Option HandlerId) :
    V (c.callCloseHandler cb handler) = V c := by
  cases handler with
  | none => rfl
  | some handler =>
    exact (F.handler _ (.close handler)).trans (F.log c (.closeHandler handler) trivial)

/-- `do_close()` makes the state `disconnected`, if there is anything to close. -/
theorem doClose (c : Client H σ) (handler : Option HandlerId) :
    V (c.doClose cb handler) =
      if c.state = .connected ∨ c.state = .connecting then V (c.setState .disconnected)
      else V c := by
  unfold Client.doClose
  split
  · have hclosed := (F.failPendingWrites (c.setState .closing).cancelPendingOperations).trans
      (F.cancelPendingOperations _)
    exact (F.callCloseHandler _ handler).trans
      (F.setState _ (c.setState .closing) .disconnected hclosed)
  · exact F.callCloseHandler c handler

/-! ## Reading -/

/-- The next read is started while the connection is up. -/
theorem startRead (c : Client H σ) : V c.startRead = V c := by
  unfold Client.startRead
  split
  · rfl
  · split
    · exact F.start c _ trivial
    · rfl

/-- A message is handed to its handler. -/
theorem callMessageHandler (c : Client H σ) : V (c.callMessageHandler cb) = V c := by
  unfold Client.callMessageHandler
  split
  · rfl
  · rename_i h _
    exact (F.handler _ (.message h _)).trans (F.log c (.message c.readBuffer) trivial)

/-! ## Settings -/

/-- What follows a successful WebSocket handshake and the connect handler. -/
theorem afterHandshake (c : Client H σ) (delay : Int) :
    V (c.setLastReadTime.startReadTimer.startRead.startPingTimer delay) = V c :=
  (F.startPingTimer _ _).trans ((F.startRead _).trans ((F.startReadTimer _).trans
    (F.setLastReadTime c)))

end Frame

/-! ## The state -/

/-- Nothing but connecting and closing changes the state. -/
theorem stateFrame (cb : Callbacks H σ) : Frame cb state where
  fields := fun _ _ _ _ _ _ _ _ => rfl
  settings := fun _ _ _ _ _ _ _ => rfl
  start := fun _ _ _ => rfl
  remove := fun _ _ _ => rfl
  log := fun _ _ _ => rfl
  owner := fun _ _ _ => rfl
  setState := fun _ _ _ _ => rfl

/-! ## What may lose the connection -/

/-- `c'` looks like `c`, or comes from a client that does by an unexpected
disconnect. -/
def SameOrDisconnect (cb : Callbacks H σ) (V : Client H σ → α) (c c' : Client H σ) : Prop :=
  V c' = V c ∨ ∃ (c₁ : Client H σ) (ec : ErrorCode), V c₁ = V c ∧ c₁.state = c.state ∧
    c' = c₁.handleUnexpectedDisconnect cb ec

/-- It does not matter what was done before, if `V` did not see it. -/
theorem SameOrDisconnect.of_same {cb : Callbacks H σ} {V : Client H σ → α} {c c₀ c' : Client H σ}
    (hview : V c₀ = V c) (hstate : c₀.state = c.state) (h : SameOrDisconnect cb V c₀ c') :
    SameOrDisconnect cb V c c' := by
  rcases h with h | ⟨c₁, ec, hview₁, hstate₁, rfl⟩
  · exact .inl (h.trans hview)
  · exact .inr ⟨c₁, ec, hview₁.trans hview, hstate₁.trans hstate, rfl⟩

namespace Frame

variable {cb : Callbacks H σ} {V : Client H σ → α} (F : Frame cb V)
include F

/-- A read ends in the next read, or in a lost connection. -/
theorem handleRead (c : Client H σ) (r : Completion) :
    SameOrDisconnect cb V c (c.handleRead cb r) := by
  unfold Client.handleRead
  split
  · exact .inl rfl
  · split
    · exact .inr ⟨c, _, rfl, rfl, rfl⟩
    · exact .inl ((F.startRead _).trans ((F.readBuffer _ _).trans
        ((F.callMessageHandler _).trans (F.setLastReadTime c))))

/-- A send that completes is followed by the next one, or by the loss of the connection. -/
theorem handleWrite (c : Client H σ) (generation : Nat) (r : Completion) :
    SameOrDisconnect cb V c (c.handleWrite cb generation r) := by
  unfold Client.handleWrite
  split
  · exact .inl rfl
  · have hrelease : V c.releaseFront = V c := F.writeFields c _ c.writeGeneration false
    have hcalled := (F.callWriteHandler c.releaseFront c.writeSlots.getFront.handler
      (AsioError.toErrorCode r.ec)).trans hrelease
    unfold continueWriting
    split
    · exact .inr ⟨_, _, hcalled, (stateFrame cb).callWriteHandler c.releaseFront _ _, rfl⟩
    · exact .inl ((F.startWrite _).trans hcalled)

/-- The read timer is armed again, or the connection is lost. -/
theorem handleReadTimeout (c : Client H σ) (status : WaitStatus) :
    SameOrDisconnect cb V c (c.handleReadTimeout cb status) := by
  unfold Client.handleReadTimeout
  split
  · exact .inl rfl
  · split
    · exact .inl (F.startReadTimer c)
    · exact .inr ⟨c, _, rfl, rfl, rfl⟩

/-- The interval takes effect at once, if there is a connection. -/
theorem setPingInterval (c : Client H σ) (interval : Int) :
    V (c.setPingInterval interval) = V c := by
  have hset := F.settings c c.messageHandler c.disconnectHandler c.pingMessageGenerator interval
    c.readTimeout c.now
  unfold Client.setPingInterval
  simp only
  split
  · exact hset
  · exact (F.startPingTimer _ _).trans ((F.pingTimer _ _).trans hset)

/-- So does the timeout. -/
theorem setReadTimeout (c : Client H σ) (timeout : Int) : V (c.setReadTimeout timeout) = V c := by
  have hset := F.settings c c.messageHandler c.disconnectHandler c.pingMessageGenerator
    c.pingInterval timeout c.now
  unfold Client.setReadTimeout
  simp only
  split
  · exact hset
  · exact (F.startReadTimer _).trans ((F.readTimer _ _).trans ((F.setLastReadTime _).trans hset))

/-- Every completion of the part, whichever operation it is of. -/
theorem complete [DecidableEq H] (c : Client H σ) {op : Op H} (hop : op.IsTransfer)
    (r : Completion) : SameOrDisconnect cb V c ((c.removeOp op).complete cb op r) := by
  have hremove := F.remove c op hop
  cases op with
  | connect => cases hop
  | read stream =>
    have hbuffer := F.readBuffer (c.removeOp (.read stream)) (c.readBuffer.append r.received)
    exact (F.handleRead _ r).of_same (hbuffer.trans hremove) rfl
  | send stream generation slot item =>
    have hlog := F.logCompletion (c.removeOp (.send stream generation slot item)) generation item
      r.ec
    exact (F.handleWrite _ generation r).of_same (hlog.trans hremove)
      ((stateFrame cb).logCompletion _ generation item r.ec)

/-- **What a step of the reading and writing part does**: nothing the view sees,
unless it loses the connection. -/
theorem step [DecidableEq H] {c c' : Client H σ} {e : Event H} (he : e.IsTransfer)
    (hstep : c.step cb e = some c') : SameOrDisconnect cb V c c' := by
  cases e with
  | assign | connect | close => cases he
  | write message handler => cases hstep; exact .inl (F.doWrite c message handler)
  | writeNow inThread message => cases hstep; exact .inl (F.writeNow c inThread message)
  | setMessageHandler handler => cases hstep; exact .inl (F.settings c handler ..)
  | setDisconnectHandler handler =>
    cases hstep
    exact .inl (F.settings c c.messageHandler handler ..)
  | setPingMessageGenerator generator =>
    cases hstep
    exact .inl (F.settings c c.messageHandler c.disconnectHandler generator ..)
  | setPingInterval interval => cases hstep; exact .inl (F.setPingInterval c interval)
  | setReadTimeout timeout => cases hstep; exact .inl (F.setReadTimeout c timeout)
  -- only a completion and the read timer may lose the connection
  | complete op r =>
    simp only [Client.step] at hstep
    split at hstep
    · cases hstep
      exact F.complete c he r
    · cases hstep
  | firePingTimer w =>
    obtain ⟨t, -, rfl⟩ := Option.map_eq_some_iff.mp hstep
    exact .inl (F.pingTimer c t)
  | fireReadTimer w =>
    obtain ⟨t, -, rfl⟩ := Option.map_eq_some_iff.mp hstep
    exact .inl (F.readTimer c t)
  | pingTimer w =>
    obtain ⟨t, -, rfl⟩ := Option.map_eq_some_iff.mp hstep
    exact .inl ((F.handlePingTimer _ w.status).trans (F.pingTimer c t))
  | readTimer w =>
    obtain ⟨t, -, rfl⟩ := Option.map_eq_some_iff.mp hstep
    exact (F.handleReadTimeout { c with readTimer := t } w.status).of_same (F.readTimer c t) rfl
  | advance duration =>
    cases hstep
    exact .inl (F.settings c c.messageHandler c.disconnectHandler c.pingMessageGenerator
      c.pingInterval c.readTimeout (c.now + duration))

end Frame

/-! ## What writing and connecting leave alone -/

/-- The view `V` sees no operations but reads, nothing of the writes, no record but
those of the messages and of lost connections, and not the owner. Then it does not
see what a callback does. -/
structure TransportFrame (V : Client H σ → α) : Prop where
  fields : ∀ (c : Client H σ) writeSlots writeGeneration writeInProgress owner,
    V { c with
      writeSlots := writeSlots
      writeGeneration := writeGeneration
      writeInProgress := writeInProgress
      owner := owner } = V c
  start : ∀ (c : Client H σ) op, (∀ stream, op ≠ .read stream) →
    V { c with ops := c.ops ++ [op] } = V c
  remove : ∀ [DecidableEq H] (c : Client H σ) op, (∀ stream, op ≠ .read stream) →
    V (c.removeOp op) = V c
  log : ∀ (c : Client H σ) o, o.IsTransport → V (c.log o) = V c

namespace TransportFrame

variable {V : Client H σ → α} (F : TransportFrame V) (cb : Callbacks H σ)
include F

/-- What sees only messages and lost connections does not see writing. -/
theorem writing : WriteFrame cb V where
  writes := fun c slots generation inProgress => F.fields c slots generation inProgress c.owner
  start := fun c _ _ _ _ => F.start c _ (by simp)
  log := fun c o => F.log c (.write o) trivial
  owner := fun c _ _ => F.fields c c.writeSlots c.writeGeneration c.writeInProgress _

theorem queueWrite (c : Client H σ) (item : WriteItem) : V (c.queueWrite item).2 = V c :=
  (F.writing .silent).queueWrite c item

theorem writeNow (c : Client H σ) (inThread : Bool) (message : List UInt8) :
    V (c.writeNow inThread message).2 = V c :=
  (F.writing .silent).writeNow c inThread message

/-- Whatever a callback does, it does to its owner. -/
theorem runCallback (c : Client H σ) (f : Callback σ) : V (c.runCallback f) = V c :=
  ((F.writing .silent).runCallback c f).trans
    (F.fields c c.writeSlots c.writeGeneration c.writeInProgress _)

/-- A handler is called, and that is recorded. -/
theorem call (c : Client H σ) {o : Obs H} (ho : o.IsTransport) (f : Callback σ) :
    V ((c.log o).runCallback f) = V c :=
  (F.runCallback _ f).trans (F.log c o ho)

/-- The handler of an attempt is called, and its answer recorded. -/
theorem callConnectHandler (c : Client H σ) (attempt : Nat) (handler : Option H)
    (ec : Option ErrorCode) : V (c.callConnectHandler cb attempt handler ec) = V c := by
  cases handler with
  | none => rfl
  | some h => exact F.call c (by trivial) _

/-- A close handler is called. -/
theorem callCloseHandler (c : Client H σ) (handler : Option HandlerId) :
    V (c.callCloseHandler cb handler) = V c := by
  cases handler with
  | none => rfl
  | some h => exact F.call c (by trivial) _

/-- Whoever does not see that a connection is lost does not see the call either. -/
theorem onUnexpectedDisconnect (hlost : ∀ (c : Client H σ) ec, V (c.log (.disconnect ec)) = V c)
    (c : Client H σ) (ec : ErrorCode) : V (c.onUnexpectedDisconnect cb ec) = V c :=
  (F.runCallback _ _).trans (hlost c ec)

theorem doWrite (c : Client H σ) (message : List UInt8) (handler : Option HandlerId) :
    V (c.doWrite cb message handler).2 = V c :=
  (F.writing cb).doWrite c message handler

/-- The ping of `handle_ping_timer()`, generated or not. -/
theorem ping (c : Client H σ) (f : Callback σ) (message : List UInt8) :
    V ((c.runCallback f).doWrite cb message none).2 = V c :=
  (F.doWrite cb _ message none).trans (F.runCallback c f)

end TransportFrame

end Client

end CppComponents.SecureWebSocketClient
