import CppComponents.Pending
import CppComponents.SecureWebSocketClient.Connecting

/-!
# Reading messages

One `async_read` at a time appends a message to `read_buffer`. The message handler gets
the bytes of the buffer, and then all of it is consumed before the next read is started.

The buffer belongs to the client, not to a connection: when a connection ends in the
middle of a message, the part that has arrived stays in the buffer until the next
`create_stream()`. So two functions empty the buffer, on two paths, and `Reading.InTurn`
is what they have in common: while a connection is up its one read is outstanding, and
the buffer is empty. The bytes of a message then start at the front of the buffer, and
since no message is longer than `read_buffer_size`, the padding is behind them.
-/

namespace CppComponents.SecureWebSocketClient

open CppComponents.Transition

variable {H σ : Type}

/-- The limit `create_stream()` passes to `read_message_max()`. -/
def readMessageMax : Nat := readBufferSize

def Op.asRead : Op H → Option Nat
  | .read stream => some stream
  | _ => none

def Obs.asMessage : Obs H → Option ReadBuffer
  | .message buffer => some buffer
  | _ => none

/-! ## What reading depends on -/

/-- The part of the client that reads. -/
structure Reading where
  state : ConnectionState
  stream : Option Nat
  /-- the streams of the reads that are outstanding -/
  reads : List Nat
  readBuffer : ReadBuffer
  messageHandler : Option HandlerId
  /-- what the message handler was called with -/
  messages : List ReadBuffer

namespace Client

/-- The streams of the reads that are outstanding. -/
def reads (c : Client H σ) : List Nat := c.ops.filterMap Op.asRead

/-- The buffers the message handler was called with. -/
def messages (c : Client H σ) : List ReadBuffer := c.trace.filterMap Obs.asMessage

def reading (c : Client H σ) : Reading :=
  ⟨c.state, c.ws.map Stream.id, c.reads, c.readBuffer, c.messageHandler, c.messages⟩

end Client

namespace Reading

variable (v : Reading)

/-- The connection ends. -/
def closed : Reading := { v with state := .disconnected }

/-- `start_read()` -/
def startRead : Reading :=
  match v.stream with
  | none => v
  | some n => if v.state = .connected then { v with reads := v.reads ++ [n] } else v

/-- A read completes with `bytes`. -/
def received (stream : Nat) (bytes : List UInt8) : Reading :=
  { v with reads := v.reads.erase stream, readBuffer := v.readBuffer.append bytes }

/-- `handle_read()`: the message is handled, and its bytes are consumed. -/
def delivered : Reading :=
  { v with
    readBuffer := .empty
    messages := v.messages ++ (v.messageHandler.map fun _ => v.readBuffer).toList }

/-- The message that event `e` has to deliver, if it delivers one: the read of the
current stream completes while the connection is up. -/
def message : Event H → Option (List UInt8)
  | .complete (.read stream) r =>
    if v.state = .connected ∧ v.stream = some stream ∧ r.ec = none ∧ v.messageHandler ≠ none
    then some r.received else none
  | _ => none

end Reading

/-! ## What the functions do -/

namespace Client

/-- Only reads and messages are seen. -/
theorem readingFrame : TransportFrame (reading : Client H σ → Reading) where
  fields := fun _ _ _ _ _ => rfl
  start := fun c op hop => by
    have hnone : op.asRead = none := by
      cases op with
      | read stream => exact absurd rfl (hop stream)
      | _ => rfl
    simp [reading, reads, hnone, messages]
  remove := fun c op hop => by
    have hnone : op.asRead = none := by
      cases op with
      | read stream => exact absurd rfl (hop stream)
      | _ => rfl
    have hreads : (c.removeOp op).reads = c.reads := Pending.filterMap_erase_of_none hnone c.ops
    show ({ c.reading with reads := (c.removeOp op).reads } : Reading) = c.reading
    rw [hreads]
    rfl
  log := fun c o ho => by
    have hnone : o.asMessage = none := by
      cases o with
      | message buffer => cases ho
      | _ => rfl
    simp [reading, reads, messages, log, hnone]

variable (cb : Callbacks H σ) (c : Client H σ)

theorem reading_startPingTimer (delay : Int) : (c.startPingTimer delay).reading = c.reading := by
  unfold startPingTimer
  split <;> rfl

theorem reading_startReadTimer : c.startReadTimer.reading = c.reading := by
  unfold startReadTimer
  split <;> rfl

/-- A ping is a write. -/
theorem reading_handlePingTimer (status : WaitStatus) :
    (c.handlePingTimer cb status).reading = c.reading := by
  have F := readingFrame (H := H) (σ := σ)
  unfold handlePingTimer
  split
  · rfl
  · refine (reading_startPingTimer _ _).trans ?_
    cases c.pingMessageGenerator with
    | none => exact F.queueWrite c _
    | some h => exact F.ping cb c _ _

/-- `start_read()` is `Reading.startRead`. -/
theorem reading_startRead : c.startRead.reading = c.reading.startRead := by
  unfold startRead Reading.startRead
  cases hws : c.ws with
  | none => simp [reading, hws]
  | some ws =>
    by_cases hstate : c.state = .connected
    · simp [reading, hws, hstate, isConnected, reads, Op.asRead, messages]
    · simp [reading, hws, hstate, isConnected]

/-- `do_close()` leaves the read in flight to be cancelled. -/
theorem reading_doClose (handler : Option HandlerId) :
    (c.doClose cb handler).reading =
      if c.state = .connected ∨ c.state = .connecting then c.reading.closed else c.reading := by
  have F := readingFrame (H := H) (σ := σ)
  unfold doClose
  split
  · have hdrained := (F.writing cb).failPendingWrites (c.setState .closing).cancelPendingOperations
    refine (F.callCloseHandler cb _ handler).trans ?_
    exact congrArg Reading.closed hdrained
  · exact F.callCloseHandler cb c handler

/-- An unexpected disconnect leaves it to be cancelled, too. -/
theorem reading_handleUnexpectedDisconnect {c : Client H σ} (hstate : c.state = .connected)
    (ec : ErrorCode) : (c.handleUnexpectedDisconnect cb ec).reading = c.reading.closed := by
  have hlost : ∀ (c : Client H σ) ec, (c.log (.disconnect ec)).reading = c.reading := by
    intro c ec
    simp [reading, reads, messages, log, Obs.asMessage]
  rw [readingFrame.handleUnexpectedDisconnect cb hlost hstate, reading_doClose,
    if_pos (.inl hstate)]

/-- A new connection starts with a read. -/
theorem reading_afterHandshake : c.afterHandshake.reading = c.reading.startRead := by
  unfold afterHandshake
  simp only
  rw [reading_startPingTimer, reading_startRead, reading_startReadTimer]
  rfl

theorem reading_consumeReadBuffer :
    c.consumeReadBuffer.reading = { c.reading with readBuffer := .empty } := by
  unfold consumeReadBuffer
  rw [FlatStaticBuffer.consume_size]
  rfl

/-- The message handler is given the whole message, and the buffer is empty afterwards. -/
theorem reading_callMessageHandler :
    (c.callMessageHandler cb).consumeReadBuffer.reading = c.reading.delivered := by
  have F := readingFrame (H := H) (σ := σ)
  have hcalled : (c.callMessageHandler cb).reading =
      { c.reading with
        messages := c.messages ++ (c.messageHandler.map fun _ => c.readBuffer).toList } := by
    unfold callMessageHandler
    cases c.messageHandler with
    | none => simp [reading]
    | some h =>
      refine (F.runCallback _ _).trans ?_
      simp [reading, reads, messages, log, Obs.asMessage]
  rw [reading_consumeReadBuffer, hcalled]
  rfl

end Client

/-! ## What a step does -/

/-- The event is not the completion of a read. -/
def Event.NoRead (e : Event H) : Prop := ∀ stream r, e ≠ .complete (.read stream) r

/-- One case for each thing a step can do to the reading part. -/
inductive Reading.Step (v : Reading) : Event H → Reading → Prop where
  | same (e : Event H) (hquiet : e.NoRead) : Step v e v
  | setMessageHandler (handler : Option HandlerId) :
    Step v (.setMessageHandler handler) { v with messageHandler := handler }
  | opened (handler : Option H) (n : Nat) (hstate : v.state = .disconnected) :
    Step v (.connect handler)
      { v with state := .connecting, stream := some n, readBuffer := .empty }
  | closed (e : Event H) (hquiet : e.NoRead)
      (hstate : v.state = .connected ∨ v.state = .connecting) : Step v e v.closed
  | established (e : Event H) (hquiet : e.NoRead) (hstate : v.state = .connecting)
      (hstream : v.stream ≠ none) : Step v e { v with state := .connected }.startRead
  | ignored (stream : Nat) (r : Completion) (hread : stream ∈ v.reads)
      (hstate : v.state ≠ .connected) :
    Step v (.complete (.read stream) r) (v.received stream r.received)
  | failed (stream : Nat) (r : Completion) (hread : stream ∈ v.reads)
      (hstate : v.state = .connected) (hec : r.ec ≠ none) :
    Step v (.complete (.read stream) r) (v.received stream r.received).closed
  | delivered (stream : Nat) (r : Completion) (hread : stream ∈ v.reads)
      (hstate : v.state = .connected) (hec : r.ec = none) :
    Step v (.complete (.read stream) r) (v.received stream r.received).delivered.startRead

namespace Client

variable [DecidableEq H] {cb : Callbacks H σ} {c c' : Client H σ}

/-- A read that completes delivers a message or ends the connection; another operation
does neither. -/
theorem reading_complete {op : Op H} (hop : op ∈ c.ops) (r : Completion) :
    c.reading.Step (.complete op r) ((c.removeOp op).complete cb op r).reading := by
  have F := readingFrame (H := H) (σ := σ)
  cases op with
  | connect stream phase n handler =>
    have hquiet : (Event.complete (.connect stream phase n handler) r).NoRead := by
      simp [Event.NoRead]
    -- the operation that completes is no read, so taking it off is not seen
    have hremoved := F.remove c (.connect stream phase n handler) (by simp)
    cases F.complete_connect cb (c.removeOp (.connect stream phase n handler)) stream phase n
      handler r with
    | same hsame =>
      rw [hsame, hremoved]
      exact .same _ hquiet
    | failed c₁ hstate hview hstate₁ hclosed =>
      rw [hclosed, reading_doClose, if_pos (.inr hstate₁), hview, hremoved]
      exact .closed _ hquiet (.inr hstate)
    | established c₁ hstate hws hview hafter =>
      have hconnected : ((c.removeOp (.connect stream phase n handler)).setState
          .connected).reading = { c.reading with state := .connected } :=
        congrArg (fun v : Reading => { v with state := .connected }) hremoved
      rw [hafter, reading_afterHandshake, hview, hconnected]
      have hws : c.ws ≠ none := hws
      exact .established _ hquiet hstate (by simpa [reading] using hws)
  | send stream generation slot item =>
    have hquiet : (Event.complete (.send stream generation slot item) r : Event H).NoRead := by
      simp [Event.NoRead]
    have hremoved := F.remove c (.send stream generation slot item) (by simp)
    rcases F.complete_send cb (c.removeOp (.send stream generation slot item)) stream generation
      slot item r with hsame | ⟨hstate, c₁, ec, hstate₁, hview, hlost⟩
    · rw [hsame, hremoved]
      exact .same _ hquiet
    · rw [hlost, reading_handleUnexpectedDisconnect cb hstate₁, hview, hremoved]
      exact .closed _ hquiet (.inl hstate)
  | read stream =>
    -- the completion takes the read off and leaves its bytes in the buffer
    have hread : stream ∈ c.reads := List.mem_filterMap.mpr ⟨_, hop, rfl⟩
    let received : Client H σ :=
      { c.removeOp (.read stream) with readBuffer := c.readBuffer.append r.received }
    have hreceived : received.reading = c.reading.received stream r.received := by
      have hreads : (c.removeOp (.read stream)).reads = c.reads.erase stream := by
        refine Pending.filterMap_erase_of_injective (f := Op.asRead) rfl (fun op hop => ?_) c.ops
        cases op <;> cases hop
        rfl
      show ({ c.reading with
        reads := (c.removeOp (.read stream)).reads
        readBuffer := c.readBuffer.append r.received } : Reading) = _
      rw [hreads]
      rfl
    show c.reading.Step _ (received.handleRead cb r).reading
    unfold handleRead
    by_cases hstate : c.state = .connected
    · have hstate' : received.state = .connected := hstate
      rw [if_neg (by simp [isConnected, hstate'])]
      split
      · rename_i ec hec
        rw [reading_handleUnexpectedDisconnect cb hstate', hreceived]
        exact .failed stream r hread hstate (by simp [hec])
      · rename_i hec
        have htouched : received.setLastReadTime.reading = received.reading := rfl
        rw [reading_startRead, reading_callMessageHandler, htouched, hreceived]
        exact .delivered stream r hread hstate hec
    · have hstate' : received.state ≠ .connected := hstate
      rw [if_pos (by simp [isConnected, hstate']), hreceived]
      exact .ignored stream r hread hstate

omit [DecidableEq H] in
/-- The events that reading does not notice. -/
theorem reading_same {e : Event H} (hquiet : e.NoRead) (hsame : c'.reading = c.reading) :
    c.reading.Step e c'.reading := by
  rw [hsame]
  exact .same e hquiet

/-- One step of the client is one step of reading. -/
theorem reading_step {e : Event H} (hstep : c.step cb e = some c') :
    c.reading.Step e c'.reading := by
  have F := readingFrame (H := H) (σ := σ)
  cases e with
  | assign a =>
    cases hstep
    exact reading_same (by simp [Event.NoRead]) (by cases a <;> rfl)
  | connect handler =>
    cases hstep
    by_cases hstate : c.state = .disconnected
    -- the attempt gets a new stream, and the buffer is consumed for it
    · have hopened : (c.doConnect cb handler).reading =
          { c.reading with
            state := .connecting, stream := some (c.attempt + 1), readBuffer := .empty } := by
        unfold doConnect
        rw [if_neg (not_not_intro hstate)]
        simp [reading, reads, messages, startPhase, log, createStream, setState, Op.asRead,
          Obs.asMessage]
      rw [hopened]
      exact .opened handler (c.attempt + 1) hstate
    · exact reading_same (by simp [Event.NoRead]) (F.rejectConnect cb hstate handler)
  | close handler =>
    cases hstep
    have hquiet : (Event.close handler : Event H).NoRead := by simp [Event.NoRead]
    have hclose : (c.close cb handler).reading =
        if c.state = .connected ∨ c.state = .connecting then c.reading.closed else c.reading := by
      unfold close
      split
      · have hlogged := F.log c (.attempt (.closed c.attempt)) trivial
        rw [reading_doClose, hlogged]
        rfl
      · exact reading_doClose cb c handler
    rw [hclose]
    split
    · rename_i hstate
      exact .closed _ hquiet hstate
    · exact .same _ hquiet
  | write message handler =>
    cases hstep
    exact reading_same (by simp [Event.NoRead]) (F.doWrite cb c message handler)
  | writeNow inThread message =>
    cases hstep
    exact reading_same (by simp [Event.NoRead]) (F.writeNow c inThread message)
  | setMessageHandler handler => cases hstep; exact .setMessageHandler handler
  | setDisconnectHandler handler => cases hstep; exact reading_same (by simp [Event.NoRead]) rfl
  | setPingMessageGenerator generator =>
    cases hstep
    exact reading_same (by simp [Event.NoRead]) rfl
  | setPingInterval interval =>
    cases hstep
    refine reading_same (by simp [Event.NoRead]) ?_
    simp only [setPingInterval]
    split
    · rfl
    · exact reading_startPingTimer _ _
  | setReadTimeout timeout =>
    cases hstep
    refine reading_same (by simp [Event.NoRead]) ?_
    simp only [setReadTimeout]
    split
    · rfl
    · exact reading_startReadTimer _
  | complete op r =>
    simp only [step] at hstep
    split at hstep
    · rename_i hop
      cases hstep
      exact reading_complete hop r
    · cases hstep
  | firePingTimer w | fireReadTimer w =>
    obtain ⟨p, -, rfl⟩ := Option.map_eq_some_iff.mp hstep
    exact reading_same (by simp [Event.NoRead]) rfl
  | pingTimer w =>
    obtain ⟨p, -, rfl⟩ := Option.map_eq_some_iff.mp hstep
    exact reading_same (by simp [Event.NoRead]) (reading_handlePingTimer cb _ w.status)
  | readTimer w =>
    obtain ⟨p, -, rfl⟩ := Option.map_eq_some_iff.mp hstep
    unfold handleReadTimeout
    split
    · exact reading_same (by simp [Event.NoRead]) rfl
    · rename_i hfired
      have hstate : c.state = .connected := by
        simpa using (not_or.mp (not_or.mp hfired).2).1
      split
      · exact reading_same (by simp [Event.NoRead]) (reading_startReadTimer _)
      · rw [reading_handleUnexpectedDisconnect cb (c := { c with readTimer := p }) hstate]
        exact .closed _ (by simp [Event.NoRead]) (.inl hstate)
  | advance duration => cases hstep; exact reading_same (by simp [Event.NoRead]) rfl

end Client

/-! ## Reads in turn -/

def Event.isConnect : Event H → Bool
  | .connect _ => true
  | _ => false

/-- The message that has arrived, if a read completes with one. -/
def Event.arrived : Event H → List UInt8
  | .complete (.read _) r => if r.ec = none then r.received else []
  | _ => []

namespace Reading

variable {v v' : Reading} {e : Event H}

/-- What is assumed of the surroundings: the cancelled read of a connection has completed
when the next `connect()` is accepted, and no message is longer than the stream allows. -/
def Orderly (v : Reading) (e : Event H) : Prop :=
  (e.isConnect = true → v.state = .disconnected → v.reads = []) ∧
    e.arrived.length ≤ readMessageMax

instance (v : Reading) (e : Event H) : Decidable (v.Orderly e) :=
  inferInstanceAs (Decidable (_ ∧ _))

/-- At most one read is outstanding, and it was started with the buffer empty. While the
connection is up there is one, of its stream. -/
structure InTurn (v : Reading) : Prop where
  one : v.reads.length ≤ 1
  empty : v.reads ≠ [] → v.readBuffer = .empty
  connecting : v.state = .connecting → v.reads = [] ∧ v.readBuffer = .empty
  connected : v.state = .connected → ∃ n, v.stream = some n ∧ v.reads = [n]

namespace InTurn

/-- Closing does not take the turn of a read. -/
theorem closed (h : v.InTurn) : v.closed.InTurn where
  one := h.one
  empty := h.empty
  connecting := fun hstate => by cases hstate
  connected := fun hstate => by cases hstate

/-- The read of a connection that has no read is started. -/
theorem startRead (hreads : v.reads = []) (hbuffer : v.readBuffer = .empty)
    (hstate : v.state = .connected) (hstream : v.stream ≠ none) : v.startRead.InTurn := by
  obtain ⟨n, hn⟩ := Option.ne_none_iff_exists'.mp hstream
  have hstart : v.startRead = { v with reads := [n] } := by
    simp [Reading.startRead, hn, hstate, hreads]
  rw [hstart]
  exact {
    one := Nat.le_refl 1
    empty := fun _ => hbuffer
    connecting := fun hconnecting => by rw [hstate] at hconnecting; cases hconnecting
    connected := fun _ => ⟨n, hn, rfl⟩ }

/-- The one read that is outstanding completes. -/
theorem reads_received (h : v.InTurn) {stream : Nat} (hread : stream ∈ v.reads)
    (bytes : List UInt8) : (v.received stream bytes).reads = [] := by
  have hlen := List.length_erase_of_mem hread
  have hone := h.one
  exact List.length_eq_zero_iff.mp (by rw [Reading.received, hlen]; omega)

/-- One step keeps the reads in turn. -/
theorem step (h : v.InTurn) (horderly : v.Orderly e) (hstep : v.Step e v') : v'.InTurn := by
  cases hstep with
  | same => exact h
  | setMessageHandler => exact ⟨h.one, h.empty, h.connecting, h.connected⟩
  | opened handler n hstate =>
    have hnone : v.reads = [] := horderly.1 rfl hstate
    exact {
      one := h.one
      empty := fun _ => rfl
      connecting := fun _ => ⟨hnone, rfl⟩
      connected := fun hconnected => by cases hconnected }
  | closed => exact h.closed
  | established _ _ hstate hstream =>
    obtain ⟨hreads, hbuffer⟩ := h.connecting hstate
    exact startRead (v := { v with state := .connected }) hreads hbuffer rfl hstream
  | ignored stream r hread hstate =>
    have hnone := h.reads_received hread r.received
    exact {
      one := by simp [hnone]
      empty := fun hne => absurd hnone hne
      connecting := fun hconnecting => by
        rw [(h.connecting hconnecting).1] at hread
        cases hread
      connected := fun hconnected => absurd hconnected hstate }
  | failed stream r hread hstate hec =>
    -- what has arrived of the message stays in the buffer
    have hnone := h.reads_received hread r.received
    exact {
      one := by simp [Reading.closed, hnone]
      empty := fun hne => absurd hnone hne
      connecting := fun hconnecting => by cases hconnecting
      connected := fun hconnected => by cases hconnected }
  | delivered stream r hread hstate hec =>
    obtain ⟨n, hn, -⟩ := h.connected hstate
    refine startRead (h.reads_received hread r.received) rfl hstate ?_
    show v.stream ≠ none
    simp [hn]

end InTurn

/-- The messages so far are the messages `sent`, each with its padding. -/
structure Delivered (v : Reading) (sent : List (List UInt8)) : Prop extends v.InTurn where
  messages : v.messages.map FlatStaticBuffer.bytes = sent
  padded : ∀ buffer ∈ v.messages, readPadding ≤ buffer.room

/-- The message handler is called only for a message that is to be delivered, and then
with that message at the front of the buffer. -/
theorem messages_step (h : v.InTurn) (horderly : v.Orderly e) (hstep : v.Step e v') :
    v.message e = none ∧ v'.messages = v.messages ∨
      ∃ bytes buffer, v.message e = some bytes ∧ v'.messages = v.messages ++ [buffer] ∧
        buffer.bytes = bytes ∧ readPadding ≤ buffer.room := by
  have hquiet : e.NoRead → v.message e = none := by
    intro hquiet
    unfold message
    split
    · rename_i stream r
      exact absurd rfl (hquiet stream r)
    · rfl
  have hstart : ∀ v : Reading, v.startRead.messages = v.messages := by
    intro v
    unfold Reading.startRead
    split
    · rfl
    · split <;> rfl
  cases hstep with
  | same _ he => exact .inl ⟨hquiet he, rfl⟩
  | setMessageHandler | opened => exact .inl ⟨rfl, rfl⟩
  | closed _ he => exact .inl ⟨hquiet he, rfl⟩
  | established _ he => exact .inl ⟨hquiet he, hstart _⟩
  | ignored stream r hread hstate =>
    exact .inl ⟨if_neg fun hconnected => hstate hconnected.1, rfl⟩
  | failed stream r hread hstate hec => exact .inl ⟨if_neg fun hok => hec hok.2.2.1, rfl⟩
  | delivered stream r hread hstate hec =>
    cases hhandler : v.messageHandler with
    | none =>
      refine .inl ⟨if_neg fun hok => hok.2.2.2 hhandler, ?_⟩
      rw [hstart]
      simp [Reading.delivered, Reading.received, hhandler]
    | some handler =>
      obtain ⟨n, hn, hreads⟩ := h.connected hstate
      obtain rfl : stream = n := by simpa [hreads] using hread
      -- one read is outstanding, so the bytes go to the front of an empty buffer
      have hbuffer : v.readBuffer = .empty := h.empty (by simp [hreads])
      have hlen : r.received.length ≤ readMessageMax := by
        have harrived := horderly.2
        simpa [Event.arrived, hec] using harrived
      have hmax : readMessageMax ≤ readBufferSize + readPadding := by decide
      obtain ⟨hbytes, hroom⟩ := FlatStaticBuffer.append_empty (hlen.trans hmax)
      refine .inr ⟨r.received, FlatStaticBuffer.empty.append r.received, ?_, ?_, hbytes, ?_⟩
      · exact if_pos ⟨hstate, hn, hec, by simp [hhandler]⟩
      · rw [hstart]
        simp [Reading.delivered, Reading.received, hhandler, hbuffer]
      · rw [hroom]
        unfold readMessageMax at hlen
        omega

/-- One step delivers the message it has to deliver, and nothing else. -/
theorem Delivered.step {sent : List (List UInt8)} (h : v.Delivered sent)
    (horderly : v.Orderly e) (hstep : v.Step e v') :
    v'.Delivered (sent ++ (v.message e).toList) := by
  have hturn := h.toInTurn.step horderly hstep
  rcases messages_step h.toInTurn horderly hstep with
    ⟨hnone, hsame⟩ | ⟨bytes, buffer, hsome, happend, hbytes, hroom⟩
  · refine ⟨hturn, ?_, ?_⟩
    · simp [hnone, hsame, h.messages]
    · rw [hsame]
      exact h.padded
  · refine ⟨hturn, ?_, ?_⟩
    · simp [hsome, happend, h.messages, hbytes]
    · rw [happend]
      intro b hb
      rcases List.mem_append.mp hb with hb | hb
      · exact h.padded b hb
      · obtain rfl := List.mem_singleton.mp hb
        exact hroom

end Reading

namespace Client

variable [DecidableEq H] (cb : Callbacks H σ)

/-- The surroundings keep to what is assumed of them. -/
def orderly (c : Client H σ) (e : Event H) : Prop := c.reading.Orderly e

omit [DecidableEq H] in
instance (c : Client H σ) (e : Event H) : Decidable (orderly c e) :=
  inferInstanceAs (Decidable (c.reading.Orderly e))

/-- A client with the messages that were to be delivered: what was received by each read
that completed without an error, on the current stream, while the connection was up and
a message handler was set. -/
def receiving : System (Client H σ × List (List UInt8)) (Event H) :=
  (system cb).record [] fun sent c e _ => sent ++ (c.reading.message e).toList

end Client

end CppComponents.SecureWebSocketClient
