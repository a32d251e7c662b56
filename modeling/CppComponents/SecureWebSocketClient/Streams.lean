import CppComponents.SecureWebSocketClient.Frame

/-!
# Streams and their operations

`do_close()` leaves the stream in place "since executor may have a pending read
operation", and the next accepted `connect()` replaces it. An operation that was
cancelled stays outstanding until its completion is delivered. So a stream is
destroyed under an operation exactly when `connect()` is accepted before the
operations of the last stream have completed (`replacedWhenIdle`).

`Extends` says what every function but `do_connect()` does: it keeps the stream,
and starts operations on no other.
-/

namespace CppComponents.SecureWebSocketClient

open CppComponents.Transition

variable {H σ : Type}

/-- The stream object an operation was started on, or, for a resolve operation,
the one that is current. -/
def Op.stream : Op H → Nat
  | .connect stream .. => stream
  | .read stream => stream
  | .send stream .. => stream

/-- A resolve operation is one of the resolver; the others use the stream. -/
def Op.UsesStream : Op H → Prop
  | .connect _ .resolve _ _ => False
  | _ => True

instance (op : Op H) : Decidable op.UsesStream := by
  unfold Op.UsesStream
  split <;> infer_instance

namespace Client

/-- The outstanding operations of `c` use its stream. -/
def StreamAlive (c : Client H σ) : Prop :=
  ∀ op ∈ c.ops, op.UsesStream → c.ws = some ⟨op.stream⟩

/-- `c'` has the stream of `c`, and no other operations but on that stream. -/
structure Extends (c c' : Client H σ) : Prop where
  ws : c'.ws = c.ws
  attempt : c'.attempt = c.attempt
  ops : ∀ op ∈ c'.ops, op ∈ c.ops ∨ c.ws = some ⟨op.stream⟩

namespace Extends

variable {c c₁ c₂ : Client H σ}

theorem of_same (hws : c₁.ws = c.ws) (hattempt : c₁.attempt = c.attempt) (hops : c₁.ops = c.ops) :
    c.Extends c₁ := ⟨hws, hattempt, fun _ h => .inl (hops ▸ h)⟩

theorem refl (c : Client H σ) : c.Extends c := .of_same rfl rfl rfl

/-- What two functions do, the one after the other. -/
theorem trans (h₁ : c.Extends c₁) (h₂ : c₁.Extends c₂) : c.Extends c₂ where
  ws := h₂.ws.trans h₁.ws
  attempt := h₂.attempt.trans h₁.attempt
  ops := fun op hop => by
    rcases h₂.ops op hop with hop | hws
    · exact h₁.ops op hop
    · exact .inr (h₁.ws ▸ hws)

/-- What follows changes neither the stream nor the operations. -/
theorem edit (h : c.Extends c₁) (hws : c₂.ws = c₁.ws) (hattempt : c₂.attempt = c₁.attempt)
    (hops : c₂.ops = c₁.ops) : c.Extends c₂ := h.trans (.of_same hws hattempt hops)

/-- An operation is started on the stream there is. -/
theorem start {ws : Stream} {op : Op H} (hws : c.ws = some ws) (hop : op.stream = ws.id) :
    c.Extends { c with ops := c.ops ++ [op] } where
  ws := rfl
  attempt := rfl
  ops := fun op' hmem => by
    rcases List.mem_append.mp hmem with hmem | hmem
    · exact .inl hmem
    · rw [List.mem_singleton.mp hmem, hop]
      exact .inr hws

theorem removeOp [DecidableEq H] (c : Client H σ) (op : Op H) : c.Extends (c.removeOp op) :=
  ⟨rfl, rfl, fun _ hmem => .inl (List.mem_of_mem_erase hmem)⟩

/-! ## Writing -/

/-- A send is an operation on the stream. -/
theorem startWrite (c : Client H σ) : c.Extends c.startWrite := by
  unfold Client.startWrite
  split
  · exact refl c
  · rename_i ws hws
    split
    · exact refl c
    · let op : Op H := .send ws.id c.writeGeneration
        (FixedRingBuffer.getIndex writeSlotCountLog c.writeSlots.head) c.writeSlots.getFront.item
      have hstart : c.Extends _ := .start hws (show op.stream = ws.id from rfl)
      exact hstart.trans (.of_same rfl rfl rfl)

/-- Queueing a write starts a send at most. -/
theorem queueWrite (c : Client H σ) (item : WriteItem) : c.Extends (c.queueWrite item).2 := by
  unfold Client.queueWrite
  split
  · exact refl c
  · have hstore : c.Extends (c.storeWrite item) := .of_same rfl rfl rfl
    exact hstore.trans (startWrite _)

/-- A callback writes, or does not. -/
theorem writeNow (c : Client H σ) (inThread : Bool) (message : List UInt8) :
    c.Extends (c.writeNow inThread message).2 := by
  unfold Client.writeNow
  split
  · exact refl c
  · exact queueWrite c _

/-- A callback can only write. -/
theorem runCallback (c : Client H σ) (f : Callback σ) : c.Extends (c.runCallback f) := by
  refine runCallback_rule (P := c.Extends) f (.of_same rfl rfl rfl) ?_
  intro c' message h
  exact h.trans (writeNow c' true message)

variable (cb : Callbacks H σ)

/-- The handler of an attempt is called. -/
theorem callConnectHandler (c : Client H σ) (n : Nat) (handler : Option H)
    (ec : Option ErrorCode) : c.Extends (c.callConnectHandler cb n handler ec) := by
  cases handler with
  | none => exact refl c
  | some h =>
    have hlog : c.Extends (c.log (.attempt (.answered n h ec))) := .of_same rfl rfl rfl
    exact hlog.trans (runCallback _ _)

/-- The handler of a write is called. -/
theorem callWriteHandler (c : Client H σ) (handler : Option HandlerId) (ec : Option ErrorCode) :
    c.Extends (c.callWriteHandler cb handler ec) := by
  cases handler with
  | none => exact refl c
  | some h =>
    have hlog : c.Extends (c.log (.write (.answered h ec))) := .of_same rfl rfl rfl
    exact hlog.trans (runCallback _ _)

/-- A close handler is called. -/
theorem callCloseHandler (c : Client H σ) (handler : Option HandlerId) :
    c.Extends (c.callCloseHandler cb handler) := by
  cases handler with
  | none => exact refl c
  | some h =>
    have hlog : c.Extends (c.log (.closeHandler h)) := .of_same rfl rfl rfl
    exact hlog.trans (runCallback _ _)

/-- The handler of messages is called. -/
theorem callMessageHandler (c : Client H σ) : c.Extends (c.callMessageHandler cb) := by
  unfold Client.callMessageHandler
  split
  · exact refl c
  · have hlog : c.Extends (c.log (.message c.readBuffer)) := .of_same rfl rfl rfl
    exact hlog.trans (runCallback _ _)

/-- `do_write()`, with the answer of a write that is refused. -/
theorem doWrite (c : Client H σ) (message : List UInt8) (handler : Option HandlerId) :
    c.Extends (c.doWrite cb message handler).2 := by
  have hsubmit : c.Extends (c.log (.write (.submitted handler))) := .of_same rfl rfl rfl
  have hqueue := hsubmit.trans (queueWrite _ ⟨.message, message, handler⟩)
  unfold Client.doWrite
  split
  · rename_i hq
    rwa [hq] at hqueue
  · rename_i code c' hq
    rw [hq] at hqueue
    split
    · exact hqueue
    · rename_i h
      have hlog : c.Extends (c'.log (.write (.rejected h code))) := hqueue.edit rfl rfl rfl
      exact hlog.trans (callWriteHandler cb _ (some h) (some (.errc code)))

/-! ## Closing -/

/-- A queued write is failed, and its handler may write. -/
theorem drainOne (c : Client H σ) : c.Extends (c.drainOne cb) := by
  have hpop : c.Extends { c with
      writeSlots := (c.writeSlots.setFront c.writeSlots.getFront.clearHandler).popFront
      trace := c.trace ++ [.write (.drained c.writeSlots.getFront.item)] } := .of_same rfl rfl rfl
  exact hpop.trans (callWriteHandler cb _ _ _)

/-- The loop of `fail_pending_writes()`, by induction on the slots that are left. -/
theorem drain : ∀ (fuel : Nat) (c : Client H σ), c.Extends (c.drain cb fuel)
  | 0, c => refl c
  | fuel + 1, c => by
    unfold Client.drain
    split
    · exact refl c
    · exact (drainOne cb c).trans (drain fuel _)

/-- Failing all writes starts nothing. -/
theorem failPendingWrites (c : Client H σ) : c.Extends (c.failPendingWrites cb) := by
  have hgeneration : c.Extends
      { c with writeGeneration := c.writeGeneration + 1, writeInProgress := false } :=
    .of_same rfl rfl rfl
  exact hgeneration.trans (drain cb _ _)

/-- `do_close()` leaves the stream where it is. -/
theorem doClose (c : Client H σ) (handler : Option HandlerId) :
    c.Extends (c.doClose cb handler) := by
  unfold Client.doClose
  split
  · have hcancel : c.Extends (c.setState .closing).cancelPendingOperations := .of_same rfl rfl rfl
    have hfail := hcancel.trans (failPendingWrites cb _)
    have hclosed : c.Extends
        (((c.setState .closing).cancelPendingOperations.failPendingWrites cb).setState
          .disconnected) := hfail.edit rfl rfl rfl
    exact hclosed.trans (callCloseHandler cb _ handler)
  · exact callCloseHandler cb c handler

theorem failConnection (c : Client H σ) (n : Nat) (handler : Option H) (ec : ErrorCode) :
    c.Extends (c.failConnection cb n handler ec) :=
  (doClose cb c none).trans (callConnectHandler cb _ n handler _)

/-- A lost connection is closed, and reported. -/
theorem handleUnexpectedDisconnect (c : Client H σ) (ec : ErrorCode) :
    c.Extends (c.handleUnexpectedDisconnect cb ec) := by
  unfold Client.handleUnexpectedDisconnect
  split
  · exact refl c
  · have hlog : c.Extends ((c.doClose cb none).log (.disconnect ec)) :=
      (doClose cb c none).edit rfl rfl rfl
    exact hlog.trans (runCallback _ _)

/-- `close()`, which may end an attempt. -/
theorem close (c : Client H σ) (handler : Option HandlerId) :
    c.Extends (c.close cb handler) := by
  unfold Client.close
  split
  · have hlog : c.Extends (c.log (.attempt (.closed c.attempt))) := .of_same rfl rfl rfl
    exact hlog.trans (doClose cb _ handler)
  · exact doClose cb c handler

/-! ## Connecting -/

/-- The completion handlers of an attempt start at most one operation, on the
stream they checked. -/
theorem ifConnecting (c : Client H σ) {k : Stream → Client H σ}
    (hk : ∀ ws, c.ws = some ws → c.Extends (k ws)) : c.Extends (c.ifConnecting k) := by
  unfold Client.ifConnecting
  split
  · exact refl c
  · rename_i ws hws
    split
    · exact hk ws hws
    · exact refl c

theorem startPhase (h : c.Extends c₁) {ws : Stream} (hws : c.ws = some ws) (phase : Phase)
    (n : Nat) (handler : Option H) : c.Extends (c₁.startPhase ws phase n handler) :=
  h.trans (.start (h.ws.trans hws) rfl)

/-- A resolve leads to a connect on the stream, or to a failure, -/
theorem handleResolve (c : Client H σ) (n : Nat) (handler : Option H) (r : Completion) :
    c.Extends (c.handleResolve cb n handler r) := by
  refine ifConnecting c fun ws hws => ?_
  split
  · exact failConnection cb c n handler _
  · exact (refl c).startPhase hws .connect n handler

/-- the connect to the SSL handshake, -/
theorem handleConnect (c : Client H σ) (n : Nat) (handler : Option H) (r : Completion) :
    c.Extends (c.handleConnect cb n handler r) := by
  refine ifConnecting c fun ws hws => ?_
  have hlog : c.Extends (c.log (.target n (.serverName c.host))) := .of_same rfl rfl rfl
  have hlogs : c.Extends ((c.log (.target n (.serverName c.host))).log
    (.target n (.verification c.host))) := .of_same rfl rfl rfl
  split
  · exact failConnection cb c n handler _
  · split
    · exact failConnection cb c n handler _
    · split
      · exact hlog.trans (failConnection cb _ n handler _)
      · split
        · exact hlogs.trans (failConnection cb _ n handler _)
        · exact hlogs.startPhase hws .sslHandshake n handler

/-- and that to the WebSocket handshake. -/
theorem handleSslHandshake (c : Client H σ) (n : Nat) (handler : Option H) (r : Completion) :
    c.Extends (c.handleSslHandshake cb n handler r) := by
  refine ifConnecting c fun ws hws => ?_
  split
  · exact failConnection cb c n handler _
  · have hlog : c.Extends (c.log (.target n (.websocketHandshake c.host c.resource))) :=
      .of_same rfl rfl rfl
    exact hlog.startPhase hws .websocketHandshake n handler

/-! ## Reading and the timers -/

/-- A read is an operation on the stream. -/
theorem startRead (c : Client H σ) : c.Extends c.startRead := by
  unfold Client.startRead
  split
  · exact refl c
  · rename_i ws hws
    split
    · exact start hws rfl
    · exact refl c

/-- The wait of the ping timer is not one. -/
theorem startPingTimer (c : Client H σ) (delay : Int) : c.Extends (c.startPingTimer delay) := by
  unfold Client.startPingTimer
  split <;> exact .of_same rfl rfl rfl

/-- Nor is that of the read timer. -/
theorem startReadTimer (c : Client H σ) : c.Extends c.startReadTimer := by
  unfold Client.startReadTimer
  split <;> exact .of_same rfl rfl rfl

/-- A read is followed by the next one, on the same stream. -/
theorem handleRead (c : Client H σ) (r : Completion) : c.Extends (c.handleRead cb r) := by
  unfold Client.handleRead
  split
  · exact refl c
  · split
    · exact handleUnexpectedDisconnect cb c _
    · have htime : c.Extends c.setLastReadTime := .of_same rfl rfl rfl
      have hcalled := htime.trans (callMessageHandler cb _)
      have hconsumed : c.Extends (c.setLastReadTime.callMessageHandler cb).consumeReadBuffer :=
        hcalled.edit rfl rfl rfl
      exact hconsumed.trans (startRead _)

/-- The handshake starts the first read, and the timers. -/
theorem handleWebsocketHandshake (c : Client H σ) (n : Nat) (handler : Option H)
    (r : Completion) : c.Extends (c.handleWebsocketHandshake cb n handler r) := by
  refine ifConnecting c fun ws _ => ?_
  split
  · exact failConnection cb c n handler _
  · let c₀ := ((c.setState .connected).log (.attempt (.connected n))).log
      (.write (.opened c.writeGeneration))
    have hopen : c.Extends c₀ := .of_same rfl rfl rfl
    have hcalled := hopen.trans (callConnectHandler cb c₀ n handler none)
    have htime : c.Extends (c₀.callConnectHandler cb n handler none).setLastReadTime :=
      hcalled.edit rfl rfl rfl
    exact ((htime.trans (startReadTimer _)).trans (startRead _)).trans (startPingTimer _ _)

/-- A send is followed by the next one, on the same stream. -/
theorem handleWrite (c : Client H σ) (generation : Nat) (r : Completion) :
    c.Extends (c.handleWrite cb generation r) := by
  unfold Client.handleWrite
  split
  · exact refl c
  · have hrelease : c.Extends c.releaseFront := .of_same rfl rfl rfl
    have hcalled := hrelease.trans (callWriteHandler cb c.releaseFront c.writeSlots.getFront.handler
      (AsioError.toErrorCode r.ec))
    unfold continueWriting
    split
    · exact hcalled.trans (handleUnexpectedDisconnect cb _ _)
    · exact hcalled.trans (startWrite _)

/-- A ping is a send. -/
theorem handlePingTimer (c : Client H σ) (status : WaitStatus) :
    c.Extends (c.handlePingTimer cb status) := by
  unfold Client.handlePingTimer
  split
  · exact refl c
  · refine Extends.trans ?_ (startPingTimer _ _)
    split
    · exact (runCallback c _).trans (doWrite cb _ _ _)
    · exact queueWrite c _

/-- A timeout that has passed closes the connection. -/
theorem handleReadTimeout (c : Client H σ) (status : WaitStatus) :
    c.Extends (c.handleReadTimeout cb status) := by
  unfold Client.handleReadTimeout
  split
  · exact refl c
  · split
    · exact startReadTimer c
    · exact handleUnexpectedDisconnect cb c _

/-- The interval concerns the timer. -/
theorem setPingInterval (c : Client H σ) (interval : Int) :
    c.Extends (c.setPingInterval interval) := by
  unfold Client.setPingInterval
  simp only
  split
  · exact .of_same rfl rfl rfl
  · have hset : c.Extends { c with pingInterval := interval }.stopPingTimer := .of_same rfl rfl rfl
    exact hset.trans (startPingTimer _ _)

/-- So does the timeout. -/
theorem setReadTimeout (c : Client H σ) (timeout : Int) :
    c.Extends (c.setReadTimeout timeout) := by
  unfold Client.setReadTimeout
  simp only
  split
  · exact .of_same rfl rfl rfl
  · have hset : c.Extends { c with readTimeout := timeout }.setLastReadTime.stopReadTimer :=
      .of_same rfl rfl rfl
    exact hset.trans (startReadTimer _)

/-- Every completion handler, whichever operation it is of. -/
theorem complete (c : Client H σ) (op : Op H) (r : Completion) :
    c.Extends (c.complete cb op r) := by
  cases op with
  | connect stream phase n handler =>
    cases phase with
    | resolve => exact handleResolve cb c n handler r
    | connect => exact handleConnect cb c n handler r
    | sslHandshake => exact handleSslHandshake cb c n handler r
    | websocketHandshake => exact handleWebsocketHandshake cb c n handler r
  | read stream =>
    have hreceived : c.Extends { c with readBuffer := c.readBuffer.append r.received } :=
      .of_same rfl rfl rfl
    exact hreceived.trans (handleRead cb _ r)
  | send stream generation slot item =>
    have hlog : c.Extends (c.logCompletion generation item r.ec) := by
      unfold logCompletion
      split <;> exact .of_same rfl rfl rfl
    exact hlog.trans (handleWrite cb _ generation r)

end Extends

variable (cb : Callbacks H σ) {c c' : Client H σ}

/-- Every step extends the client, unless it accepts an attempt. -/
theorem extends_step [DecidableEq H] {e : Event H}
    (he : ∀ handler, e = .connect handler → c.state ≠ .disconnected)
    (hstep : c.step cb e = some c') : c.Extends c' := by
  cases e with
  | assign a => cases hstep; cases a <;> exact .of_same rfl rfl rfl
  -- a connect that is accepted is left out, so this one is rejected
  | connect handler =>
    cases hstep
    unfold doConnect
    rw [if_pos (he handler rfl)]
    cases handler with
    | none => exact .refl c
    | some h =>
      have hlog : c.Extends (c.log (.rejectedConnect h)) := .of_same rfl rfl rfl
      exact hlog.trans (.runCallback _ _)
  | close handler => cases hstep; exact .close cb c handler
  | write message handler => cases hstep; exact .doWrite cb c message handler
  | writeNow inThread message => cases hstep; exact .writeNow c inThread message
  | setPingInterval interval => cases hstep; exact .setPingInterval c interval
  | setReadTimeout timeout => cases hstep; exact .setReadTimeout c timeout
  | complete op r =>
    simp only [step] at hstep
    split at hstep
    · cases hstep
      exact (Extends.removeOp c op).trans (.complete cb _ op r)
    · cases hstep
  | firePingTimer w =>
    obtain ⟨t, -, rfl⟩ := Option.map_eq_some_iff.mp hstep
    exact .of_same rfl rfl rfl
  | fireReadTimer w =>
    obtain ⟨t, -, rfl⟩ := Option.map_eq_some_iff.mp hstep
    exact .of_same rfl rfl rfl
  | pingTimer w =>
    obtain ⟨t, -, rfl⟩ := Option.map_eq_some_iff.mp hstep
    have htimer : c.Extends { c with pingTimer := t } := .of_same rfl rfl rfl
    exact htimer.trans (.handlePingTimer cb _ w.status)
  | readTimer w =>
    obtain ⟨t, -, rfl⟩ := Option.map_eq_some_iff.mp hstep
    have htimer : c.Extends { c with readTimer := t } := .of_same rfl rfl rfl
    exact htimer.trans (.handleReadTimeout cb _ w.status)
  | _ => cases hstep; exact .of_same rfl rfl rfl

/-! ## A stream is replaced when it is idle -/

/-- When an attempt is accepted, no operation but of the resolver is outstanding. -/
def replacedWhenIdle : Guard (Client H σ) (Event H)
  | c, .connect _ => c.state = .disconnected → ∀ op ∈ c.ops, ¬ op.UsesStream
  | _, _ => True

instance (c : Client H σ) (e : Event H) : Decidable (replacedWhenIdle c e) :=
  match e with
  | .connect _ => inferInstanceAs (Decidable (_ → ∀ op ∈ c.ops, ¬ op.UsesStream))
  | .assign _ | .close _ | .write _ _ | .writeNow _ _ | .setMessageHandler _
  | .setDisconnectHandler _ | .setPingMessageGenerator _ | .setPingInterval _
  | .setReadTimeout _ | .complete _ _ | .firePingTimer _ | .fireReadTimer _ | .pingTimer _
  | .readTimer _ | .advance _ => isTrue trivial

/-- The stream is the one of the last attempt. -/
structure StreamInv (c : Client H σ) : Prop where
  alive : c.StreamAlive
  current : ∀ ws, c.ws = some ws → ws.id = c.attempt

/-- The invariant is about the stream and its operations. -/
theorem StreamInv.extend (h : c.StreamInv) (hext : c.Extends c') : c'.StreamInv where
  alive := fun op hop huses => by
    rw [hext.ws]
    rcases hext.ops op hop with hold | hnew
    · exact h.alive op hold huses
    · exact hnew
  current := fun ws hws => by
    rw [hext.attempt]
    exact h.current ws (hext.ws ▸ hws)

/-- An accepted `connect()` replaces a stream that nothing uses. -/
theorem StreamInv.accept (hidle : ∀ op ∈ c.ops, ¬ op.UsesStream) (hstate : c.state = .disconnected)
    (handler : Option H) : (c.doConnect cb handler).StreamInv := by
  unfold doConnect
  rw [if_neg (not_not_intro hstate)]
  constructor
  · intro op hop huses
    rcases List.mem_append.mp hop with hold | hnew
    · exact absurd huses (hidle op hold)
    · rw [List.mem_singleton.mp hnew] at huses
      exact huses.elim
  · rintro ws hws
    cases hws
    rfl

/-- An operation of the stream that is replaced is left on a destroyed stream. -/
theorem StreamInv.not_alive_accept (h : c.StreamInv) (hstate : c.state = .disconnected)
    {op : Op H} (hop : op ∈ c.ops) (huses : op.UsesStream) (handler : Option H) :
    ¬ (c.doConnect cb handler).StreamAlive := by
  intro halive
  have hcurrent := h.current _ (h.alive op hop huses)
  have hmem : op ∈ (c.doConnect cb handler).ops := by
    unfold doConnect
    rw [if_neg (not_not_intro hstate)]
    exact List.mem_append_left _ hop
  have hws : (c.doConnect cb handler).ws = some ⟨c.attempt + 1⟩ := by
    unfold doConnect
    rw [if_neg (not_not_intro hstate)]
    rfl
  have hnew := (halive op hmem huses).symm.trans hws
  simp only [Option.some.injEq, Stream.mk.injEq] at hnew hcurrent
  omega

/-- The invariant holds in every run that meets the condition. -/
theorem streamInv_of_reachable [DecidableEq H] (hr : Reachable (system cb) replacedWhenIdle c) :
    c.StreamInv := by
  refine hr.invariant (I := StreamInv) ?_ ?_
  · rintro c ⟨owner, now, rfl⟩
    exact ⟨fun op hop => absurd hop List.not_mem_nil, fun ws hws => by cases hws⟩
  · intro c e c' h hok he
    by_cases haccept : ∃ handler, e = .connect handler ∧ c.state = .disconnected
    · obtain ⟨handler, rfl, hstate⟩ := haccept
      cases he
      exact .accept cb (hok hstate) hstate handler
    · refine h.extend (extends_step cb ?_ he)
      exact fun handler heq hstate => haccept ⟨handler, heq, hstate⟩

/-- **A stream outlives its operations**, in every run in which an attempt is
accepted only when the operations on the last stream have completed. An accepted
`connect()` that this excludes leaves an operation on a destroyed stream. -/
theorem streams_outlive_operations [DecidableEq H]
    (hr : Reachable (system cb) replacedWhenIdle c) :
    c.StreamAlive ∧ ∀ handler, ¬ replacedWhenIdle c (.connect handler) →
      ¬ (c.doConnect cb handler).StreamAlive := by
  have h := streamInv_of_reachable cb hr
  refine ⟨h.alive, fun handler hnot => ?_⟩
  obtain ⟨hstate, hops⟩ := Classical.not_imp.mp hnot
  simp only [not_forall, not_not] at hops
  obtain ⟨op, hop, huses⟩ := hops
  exact h.not_alive_accept cb hstate hop huses handler

/-- A connection with a read outstanding is closed. -/
def closeConnection : List (Event Nat) :=
  [.connect (some 1), .complete (.connect 1 .resolve 1 (some 1)) {},
    .complete (.connect 1 .connect 1 (some 1)) {},
    .complete (.connect 1 .sslHandshake 1 (some 1)) {},
    .complete (.connect 1 .websocketHandshake 1 (some 1)) {}, .close none]

/-- `connect()` runs before the cancelled read has completed. -/
theorem not_streamAlive_cancelledRead :
    ¬ ∀ c : Client Nat Unit, Reachable (system .silent) anyStep c → c.StreamAlive := by
  intro hall
  have hsome : ((run (system (.silent : Callbacks Nat Unit)) anyStep (create () 0)
      (closeConnection ++ [.connect (some 2)])).map fun c => (c.ops, c.ws)) =
      some ([.read 1, .connect 2 .resolve 2 (some 2)], some ⟨2⟩) := by
    decide
  obtain ⟨c, hrun, hc⟩ := Option.map_eq_some_iff.mp hsome
  simp only [Prod.mk.injEq] at hc
  obtain ⟨hops, hws⟩ := hc
  have halive := hall c ⟨_, ⟨(), 0, rfl⟩, Path.of_run _ hrun⟩ (.read 1)
    (by rw [hops]; exact List.mem_cons_self) trivial
  rw [hws] at halive
  cases halive

/-- The cancelled read completes before `connect()` runs. -/
theorem streams_outlive_operations_completedRead :
    ∃ c : Client Nat Unit, c.StreamAlive ∧ c.ws = some ⟨2⟩ ∧
      c.ops = [.connect 2 .connect 2 (some 2)] := by
  have hsome : ((run (system (.silent : Callbacks Nat Unit)) replacedWhenIdle (create () 0)
      (closeConnection ++ [.complete (.read 1) ⟨some .operationAborted, none, none, none, []⟩,
        .connect (some 2), .complete (.connect 2 .resolve 2 (some 2)) {}])).map fun c =>
      (c.ws, c.ops)) = some (some ⟨2⟩, [.connect 2 .connect 2 (some 2)]) := by
    decide
  obtain ⟨c, hrun, hc⟩ := Option.map_eq_some_iff.mp hsome
  simp only [Prod.mk.injEq] at hc
  obtain ⟨hws, hops⟩ := hc
  have hr : Reachable (system (.silent : Callbacks Nat Unit)) replacedWhenIdle c :=
    ⟨_, ⟨(), 0, rfl⟩, Path.of_run _ hrun⟩
  exact ⟨c, (streams_outlive_operations .silent hr).1, hws, hops⟩

end Client

end CppComponents.SecureWebSocketClient
