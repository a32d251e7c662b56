import CppComponents.Pending
import CppComponents.SecureWebSocketClient.Frame
import CppComponents.SecureWebSocketClient.Writes

/-!
# Every write is sent in order and answered once

The functions of the client keep `Transport` and `Ledger` at every point at
which user code runs (`WriteInv`), and between two callbacks of the executor
also `Quiet` and `Flowing` (`Settled`). User code runs in the middle of
`handle_write()`, after the front slot was popped and before the next write is
started, and in the middle of the loop of `fail_pending_writes()`, when the
state is `closing` and `write_now()` is rejected. `WriteInv` holds there;
`Settled` does not.
-/

namespace CppComponents.SecureWebSocketClient

open CppComponents.Transition CppComponents.Pending

variable {H σ : Type}

namespace Client

/-- What holds of the writes whenever user code runs. -/
structure WriteInv (c : Client H σ) : Prop where
  transport : c.writes.Transport
  ledger : c.writes.Ledger none

/-- What holds of the writes between two callbacks of the executor. -/
structure Settled (c : Client H σ) : Prop extends WriteInv c where
  quiet : c.writes.Quiet
  flowing : c.writes.Flowing

/-! ## What leaves the writes alone -/

theorem writes_log (c : Client H σ) {o : Obs H} (ho : o.asWrite = none) :
    (c.log o).writes = c.writes := by
  simp [writes, log, ho]

theorem writes_log_write (c : Client H σ) (o : WriteObs) :
    (c.log (.write o)).writes = c.writes.record o := by
  simp [writes, log, Writes.record, Obs.asWrite]

theorem writes_startOp (c : Client H σ) {op : Op H} (hop : ∀ g, op.asSending g = none) :
    ({ c with ops := c.ops ++ [op] } : Client H σ).writes = c.writes := by
  simp [writes, hop]

theorem writes_startPingTimer (c : Client H σ) (delay : Int) :
    (c.startPingTimer delay).writes = c.writes := by
  unfold startPingTimer
  split <;> rfl

theorem writes_startReadTimer (c : Client H σ) : c.startReadTimer.writes = c.writes := by
  unfold startReadTimer
  split <;> rfl

/-- Reading goes on beside the writes. -/
theorem writes_startRead (c : Client H σ) : c.startRead.writes = c.writes := by
  unfold startRead
  split
  · rfl
  · split
    · exact writes_startOp c fun _ => rfl
    · rfl

/-! ## Queueing and starting writes -/

/-- `start_write()` sends the front of a queue that is not empty while nothing is being
sent. -/
theorem writes_startWrite {c : Client H σ} {ws : Stream} (hws : c.ws = some ws)
    (hidle : c.writeInProgress = false) (hne : c.writeSlots.isEmpty = false) :
    c.startWrite.writes = c.writes.start ws := by
  unfold startWrite
  simp only [hws, hidle, hne, Bool.or_self, Bool.false_eq_true, if_false]
  refine Writes.ext rfl hws.symm rfl rfl rfl (funext fun g => ?_) ?_
  · by_cases hg : g = c.writeGeneration
    · simp [writes, Writes.start, Writes.record, Op.asSending, hg, Writes.sendFront]
    · simp [writes, Writes.start, Writes.record, Op.asSending, hg, Ne.symm hg]
  · simp [writes, Writes.start, Writes.record, Obs.asWrite]

/-- `start_write()` keeps the queue and its accounts, whether or not it starts anything. -/
theorem writeInv_startWrite {c : Client H σ} (h : c.WriteInv) (hconn : c.state = .connected) :
    c.startWrite.WriteInv := by
  cases hws : c.ws with
  | none => simpa only [startWrite, hws] using h
  | some ws =>
    by_cases hguard : (c.writeInProgress || c.writeSlots.isEmpty) = true
    · simpa only [startWrite, hws, hguard, if_true] using h
    · obtain ⟨hidle, hne⟩ : c.writeInProgress = false ∧ c.writeSlots.isEmpty = false := by
        simpa using hguard
      have hsize : c.writes.slots.getSize ≠ 0 := fun hzero => by
        have := (FixedRingBuffer.isEmpty_iff c.writeSlots).mpr hzero
        simp [hne] at this
      have hw : c.startWrite.writes = c.writes.start ws := writes_startWrite hws hidle hne
      exact {
        transport := by
          rw [hw]
          exact h.transport.start hconn hidle hsize hws
        ledger := by
          rw [hw]
          have hstart : ({ c.writes with
              inProgress := true
              sendings := fun g => if g = c.writes.generation
                then c.writes.sendings g ++ [c.writes.sendFront ws]
                else c.writes.sendings g } : Writes).Ledger none := ⟨h.ledger.1, h.ledger.2⟩
          exact hstart.record rfl rfl rfl }

/-- After `start_write()` a queued write is on its way. -/
theorem flowing_startWrite {c : Client H σ} (hws : c.ws ≠ none) :
    c.startWrite.writes.Flowing := by
  intro _ hq
  cases hs : c.ws with
  | none => exact absurd hs hws
  | some ws =>
    by_cases hguard : (c.writeInProgress || c.writeSlots.isEmpty) = true
    · simp only [startWrite, hs, hguard, if_true] at hq ⊢
      have hne : ¬ c.writeSlots.isEmpty = true := fun he =>
        hq ((Writes.queue_eq_nil_iff c.writes).mpr he)
      simpa [hne, writes] using hguard
    · simp [startWrite, hs, hguard, writes]

/-- A write is queued only while connected, if it fits a slot and one is free. -/
theorem queueWriteError_eq_none {c : Client H σ} {item : WriteItem}
    (h : c.queueWriteError item = none) :
    c.state = .connected ∧ c.ws ≠ none ∧ item.message.length ≤ writeSlotSize ∧
      ¬ c.writeSlots.isFull = true := by
  unfold queueWriteError at h
  split at h
  · cases h
  · rename_i hconn
    obtain ⟨hstate, hws⟩ := not_or.mp hconn
    split at h
    · cases h
    · rename_i hlen
      split at h
      · cases h
      · rename_i hfull
        exact ⟨Decidable.not_not.mp hstate, hws, Nat.le_of_not_lt hlen, hfull⟩

/-- A write that `queue_write()` does not refuse finds a free slot that holds it, and the
open submission of the ledger becomes a place in the queue. -/
theorem writeInv_storeWrite {c : Client H σ} {item : WriteItem} (ht : c.writes.Transport)
    (hl : c.writes.Ledger item.handler) (hping : item.type = .ping → item.message = [])
    (herr : c.queueWriteError item = none) : (c.storeWrite item).WriteInv := by
  obtain ⟨hconn, -, hlen, hfull⟩ := queueWriteError_eq_none herr
  have hsize : c.writes.slots.getSize < 2 ^ writeSlotCountLog := by
    have hle : c.writes.slots.getSize ≤ 2 ^ writeSlotCountLog := ht.wellFormed
    have hne := mt (FixedRingBuffer.isFull_iff c.writeSlots).mpr hfull
    exact Nat.lt_of_le_of_ne hle hne
  have hw : (c.storeWrite item).writes =
      (c.writes.push item).record (.accepted c.writeGeneration item) := by
    simp [storeWrite, writes, Writes.push, Writes.record, Obs.asWrite]
  have hpush : (c.writes.push item).Ledger none :=
    hl.push (Writes.queue_push c.writes hsize hlen hping) rfl
  refine ⟨?_, ?_⟩
  · rw [hw]
    exact ht.accept hconn hsize hlen hping
  · rw [hw]
    exact hpush.record rfl rfl rfl

/-- `queue_write()` rejects a write and changes nothing, or stores it, starts
what can be started and leaves a write in progress. -/
theorem queueWrite_cases (c : Client H σ) {item : WriteItem}
    (hping : item.type = .ping → item.message = []) :
    (∃ code, c.queueWrite item = (some code, c)) ∨
    ∃ c', c.queueWrite item = (none, c') ∧ c.state = .connected ∧
      c'.state = .connected ∧ c'.writes.Flowing ∧
      (c.writes.Transport → c.writes.Ledger item.handler → c'.WriteInv) := by
  unfold queueWrite
  cases herr : c.queueWriteError item with
  | some code => exact .inl ⟨code, rfl⟩
  | none =>
    obtain ⟨hconn, hws, -, -⟩ := queueWriteError_eq_none herr
    refine .inr ⟨_, rfl, hconn, ((stateFrame .silent).startWrite _).trans hconn, ?_,
      fun ht hl => ?_⟩
    · have hws' : (c.storeWrite item).ws ≠ none := hws
      exact flowing_startWrite hws'
    · exact writeInv_startWrite (writeInv_storeWrite ht hl hping herr) hconn

/-- Being settled is a property of the writes alone: a step that leaves them leaves it. -/
theorem settled_of_writes {c c' : Client H σ} (h : c.Settled) (hw : c'.writes = c.writes) :
    c'.Settled where
  transport := hw ▸ h.transport
  ledger := hw ▸ h.ledger
  quiet := hw ▸ h.quiet
  flowing := hw ▸ h.flowing

/-- While connected nothing has to be quiet, so a state that keeps its accounts and has the
front under way is settled. -/
theorem settled_of_connected {c : Client H σ} (h : c.WriteInv) (hconn : c.state = .connected)
    (hflow : c.writes.Flowing) : c.Settled :=
  { h with
    quiet := fun hne => absurd hconn hne
    flowing := hflow }

/-! ## User code -/

/-- A `write_now()` of user code changes nothing, or queues a write of a connection that
stays connected. -/
theorem writeNow_cases (c : Client H σ) (inThread : Bool) (message : List UInt8) :
    (c.writeNow inThread message).2 = c ∨
    c.state = .connected ∧ (c.writeNow inThread message).2.state = .connected ∧
      (c.WriteInv → (c.writeNow inThread message).2.Settled) := by
  unfold writeNow
  cases inThread with
  | false => exact .inl rfl
  | true =>
    have hping : (⟨.message, message, none⟩ : WriteItem).type = .ping → message = [] :=
      fun h => by cases h
    rcases queueWrite_cases c hping with ⟨code, hq⟩ | ⟨c', hq, hconn, hconn', hflow, hinv⟩
    · exact .inl (by simp [hq])
    · refine .inr ⟨hconn, by simp [hq, hconn'], fun h => ?_⟩
      simp only [Bool.not_true, Bool.false_eq_true, if_false, hq]
      exact settled_of_connected (hinv h.transport h.ledger) hconn' hflow

/-- Without a connection user code cannot touch the writes. -/
theorem writes_runCallback {c : Client H σ} (hstate : c.state ≠ .connected) (f : Callback σ) :
    (c.runCallback f).writes = c.writes := by
  refine runCallback_rule (P := fun c' => c'.writes = c.writes) f rfl ?_
  intro c' message h
  have hstate' : c'.state ≠ .connected := by
    have hs : c'.state = c.state := congrArg Writes.state h
    rwa [hs]
  rcases writeNow_cases c' true message with heq | ⟨hconn, -, -⟩
  · exact (congrArg writes heq).trans h
  · exact absurd hconn hstate'

/-- Whatever user code queues from a callback, the accounts of the writes stay in order. -/
theorem writeInv_runCallback {c : Client H σ} (h : c.WriteInv) (f : Callback σ) :
    (c.runCallback f).WriteInv := by
  refine runCallback_rule (P := WriteInv) f ⟨h.1, h.2⟩ ?_
  intro c' message h
  rcases writeNow_cases c' true message with heq | ⟨-, -, hinv⟩
  · rwa [heq]
  · exact (hinv h).toWriteInv

/-- The client is as settled after a callback as before it. -/
theorem settled_runCallback {c : Client H σ} (h : c.Settled) (f : Callback σ) :
    (c.runCallback f).Settled := by
  refine runCallback_rule (P := Settled) f (settled_of_writes h rfl) ?_
  intro c' message h
  rcases writeNow_cases c' true message with heq | ⟨-, -, hinv⟩
  · rwa [heq]
  · exact hinv h.toWriteInv

/-! ## Handlers -/

variable (cb : Callbacks H σ)

/-- Off the connection a write handler can queue nothing: calling it only records the
answer. -/
theorem writes_callWriteHandler {c : Client H σ} (hstate : c.state ≠ .connected)
    (handler : Option HandlerId) (ec : Option ErrorCode) :
    (c.callWriteHandler cb handler ec).writes = c.writes.answer handler ec := by
  cases handler with
  | none => rfl
  | some handler =>
    have hrun := writes_runCallback (c := c.log (.write (.answered handler ec))) hstate
      (cb.write handler ec)
    exact hrun.trans (writes_log_write c _)

/-- A write handler is called in a state that is as it should be once the call
is recorded. -/
theorem writeInv_callWriteHandler {c : Client H σ} {handler : Option HandlerId}
    {ec : Option ErrorCode} (ht : (c.writes.answer handler ec).Transport)
    (hl : (c.writes.answer handler ec).Ledger none) :
    (c.callWriteHandler cb handler ec).WriteInv := by
  cases handler with
  | none => exact ⟨ht, hl⟩
  | some handler =>
    refine writeInv_runCallback ⟨?_, ?_⟩ _
    · rw [writes_log_write]
      exact ht
    · rw [writes_log_write]
      exact hl

/-- The handler of a write is called last: if the record of its answer leaves the writes as
they should be, so does what user code then does. -/
theorem settled_callWriteHandler {c : Client H σ} {handler : Option HandlerId}
    {ec : Option ErrorCode} (ht : (c.writes.answer handler ec).Transport)
    (hl : (c.writes.answer handler ec).Ledger none) (hq : c.writes.Quiet)
    (hf : c.writes.Flowing) : (c.callWriteHandler cb handler ec).Settled := by
  cases handler with
  | none => exact ⟨⟨ht, hl⟩, hq, hf⟩
  | some handler =>
    rw [← show _ = c.writes.answer (some handler) ec from writes_log_write c _] at ht hl
    have hlog : (c.log (.write (.answered handler ec))).Settled := ⟨⟨ht, hl⟩, hq, hf⟩
    exact settled_runCallback hlog _

theorem settled_callCloseHandler {c : Client H σ} (h : c.Settled) (handler : Option HandlerId) :
    (c.callCloseHandler cb handler).Settled := by
  cases handler with
  | none => exact h
  | some handler => exact settled_runCallback (settled_of_writes h (writes_log c rfl)) _

/-- A connect handler is user code like any other, and may queue the first writes of the
connection. -/
theorem settled_callConnectHandler {c : Client H σ} (h : c.Settled) (attempt : Nat)
    (handler : Option H) (ec : Option ErrorCode) :
    (c.callConnectHandler cb attempt handler ec).Settled := by
  cases handler with
  | none => exact h
  | some handler => exact settled_runCallback (settled_of_writes h (writes_log c rfl)) _

/-- The message handler is user code like any other. -/
theorem settled_callMessageHandler {c : Client H σ} (h : c.Settled) :
    (c.callMessageHandler cb).Settled := by
  unfold callMessageHandler
  cases c.messageHandler with
  | none => exact h
  | some handler => exact settled_runCallback (settled_of_writes h (writes_log c rfl)) _

/-! ## Closing -/

/-- One round of `fail_pending_writes()` is `Writes.drainOne`. -/
theorem writes_drainOne {c : Client H σ} (hstate : c.state ≠ .connected) :
    (c.drainOne cb).writes = c.writes.drainOne := by
  have hwrites := writes_callWriteHandler cb (c := { c with
      writeSlots := (c.writeSlots.setFront c.writeSlots.getFront.clearHandler).popFront
      trace := c.trace ++ [.write (.drained c.writeSlots.getFront.item)] }) hstate
    c.writeSlots.getFront.handler (some (.errc .operationCanceled))
  refine hwrites.trans ?_
  simp [writes, Writes.drainOne, Writes.record, Writes.pop, Obs.asWrite]

/-- One iteration of `fail_pending_writes()` shortens the queue: user code that
it calls cannot queue anything. -/
theorem getSize_drainOne {c : Client H σ} (hstate : c.state ≠ .connected)
    (hne : ¬ c.writeSlots.isEmpty = true) :
    (c.drainOne cb).writeSlots.getSize + 1 = c.writeSlots.getSize := by
  have hsize : c.writes.slots.getSize ≠ 0 :=
    fun hzero => hne ((FixedRingBuffer.isEmpty_iff c.writeSlots).mpr hzero)
  have hslots : (c.drainOne cb).writeSlots = c.writes.pop.slots :=
    (congrArg Writes.slots (writes_drainOne cb hstate)).trans (Writes.slots_drainOne c.writes)
  rw [hslots]
  exact Writes.getSize_pop c.writes hsize

/-- A round of `fail_pending_writes()` moves the front write from the queue to the answered
ones. -/
theorem writeInv_drainOne {c : Client H σ} (h : c.WriteInv) (hstate : c.state ≠ .connected)
    (hne : ¬ c.writeSlots.isEmpty = true) : (c.drainOne cb).WriteInv := by
  have hsize : c.writes.slots.getSize ≠ 0 :=
    fun hzero => hne ((FixedRingBuffer.isEmpty_iff c.writeSlots).mpr hzero)
  have hwrites := writes_drainOne cb hstate
  refine ⟨?_, ?_⟩
  · rw [hwrites]
    exact h.transport.drainOne hstate hsize
  · rw [hwrites]
    exact h.ledger.drainOne h.transport.wellFormed hsize

/-- The loop of `fail_pending_writes()` ends with an empty queue. -/
theorem isEmpty_drain : ∀ (fuel : Nat) {c : Client H σ}, c.state ≠ .connected →
    c.writeSlots.getSize ≤ fuel → (c.drain cb fuel).writeSlots.isEmpty = true
  | 0, c, _, hsize => (FixedRingBuffer.isEmpty_iff _).mpr (Nat.le_zero.mp hsize)
  | fuel + 1, c, hstate, hsize => by
    unfold drain
    by_cases hempty : c.writeSlots.isEmpty = true
    · rwa [if_pos hempty]
    · rw [if_neg hempty]
      have hless := getSize_drainOne cb hstate hempty
      exact isEmpty_drain fuel ((stateFrame cb).drainOne c ▸ hstate) (by omega)

/-- Once the queue is empty the loop has ended: more iterations are allowed,
but not made. -/
theorem drain_add : ∀ (fuel extra : Nat) {c : Client H σ}, c.state ≠ .connected →
    c.writeSlots.getSize ≤ fuel → c.drain cb (fuel + extra) = c.drain cb fuel
  | 0, extra, c, _, hsize => by
    have hempty : c.writeSlots.isEmpty = true :=
      (FixedRingBuffer.isEmpty_iff _).mpr (Nat.le_zero.mp hsize)
    cases extra with
    | zero => rfl
    | succ extra => simp [drain, hempty]
  | fuel + 1, extra, c, hstate, hsize => by
    rw [Nat.add_right_comm]
    unfold drain
    by_cases hempty : c.writeSlots.isEmpty = true
    · rw [if_pos hempty, if_pos hempty]
    · rw [if_neg hempty, if_neg hempty]
      have hless := getSize_drainOne cb hstate hempty
      exact drain_add fuel extra ((stateFrame cb).drainOne c ▸ hstate) (by omega)

/-- By induction on the fuel: the loop keeps the accounts, and no callback reopens the
connection. -/
theorem writeInv_drain : ∀ (fuel : Nat) {c : Client H σ}, c.WriteInv → c.state ≠ .connected →
    (c.drain cb fuel).WriteInv ∧ (c.drain cb fuel).state = c.state
  | 0, c, h, _ => ⟨h, rfl⟩
  | fuel + 1, c, h, hstate => by
    unfold drain
    by_cases hempty : c.writeSlots.isEmpty = true
    · rw [if_pos hempty]
      exact ⟨h, rfl⟩
    · rw [if_neg hempty]
      have hstate' : (c.drainOne cb).state = c.state := (stateFrame cb).drainOne c
      have hrest := writeInv_drain fuel (writeInv_drainOne cb h hstate hempty) (hstate' ▸ hstate)
      rwa [hstate'] at hrest

/-- Leaving `connected`, the client cancels what is pending and answers every queued write:
the queue is empty afterwards. -/
theorem failPendingWrites_spec {c : Client H σ} {state : ConnectionState} (h : c.WriteInv)
    (hstate : state ≠ .connected) :
    ((c.setState state).cancelPendingOperations.failPendingWrites cb).WriteInv ∧
    ((c.setState state).cancelPendingOperations.failPendingWrites cb).state = state ∧
    ((c.setState state).cancelPendingOperations.failPendingWrites cb).writes.queue = [] := by
  have hlost : ({ c.writes with
      state := state, generation := c.writeGeneration + 1, inProgress := false } : Writes).Ledger
      none := ⟨h.ledger.1, h.ledger.2⟩
  let lost : Client H σ := { (c.setState state).cancelPendingOperations with
    writeGeneration := c.writeGeneration + 1, writeInProgress := false }
  obtain ⟨hinv, hdrained⟩ := writeInv_drain cb (c := lost) c.writeSlots.getSize
    ⟨h.transport.disconnect hstate, hlost⟩ hstate
  have hempty := isEmpty_drain cb (c := lost) c.writeSlots.getSize hstate (Nat.le_refl _)
  exact ⟨hinv, hdrained, (Writes.queue_eq_nil_iff _).mpr hempty⟩

theorem settled_of_closed {c : Client H σ} (h : c.WriteInv) (hstate : c.state ≠ .connected)
    (hq : c.writes.queue = []) : c.Settled :=
  { h with
    quiet := fun _ => hq
    flowing := fun hconn => absurd hconn hstate }

/-- `do_close()` settles the writes, whatever was queued. -/
theorem doClose_spec {c : Client H σ} (h : c.WriteInv) (hq : c.writes.Quiet)
    (handler : Option HandlerId) :
    (c.doClose cb handler).Settled ∧ (c.doClose cb handler).state ≠ .connected := by
  unfold doClose
  by_cases hopen : c.state = .connected ∨ c.state = .connecting
  · rw [if_pos hopen]
    have hclosing : ConnectionState.closing ≠ .connected := by decide
    have hdisc : ConnectionState.disconnected ≠ .connected := by decide
    obtain ⟨hinv, hstate, hnil⟩ := failPendingWrites_spec cb h hclosing
    have hset : (((c.setState .closing).cancelPendingOperations.failPendingWrites cb).setState
        .disconnected).Settled := by
      refine settled_of_closed ⟨?_, ⟨hinv.ledger.1, hinv.ledger.2⟩⟩ hdisc hnil
      exact hinv.transport.setState (by rw [writes, hstate]; exact hclosing) hdisc _
    refine ⟨settled_callCloseHandler cb hset handler, ?_⟩
    rw [(stateFrame cb).callCloseHandler]
    exact hdisc
  · rw [if_neg hopen]
    obtain ⟨hstate, -⟩ := not_or.mp hopen
    refine ⟨settled_callCloseHandler cb (settled_of_closed h hstate (hq hstate)) handler, ?_⟩
    rw [(stateFrame cb).callCloseHandler]
    exact hstate

theorem settled_failConnection {c : Client H σ} (h : c.Settled) (attempt : Nat)
    (handler : Option H) (ec : ErrorCode) :
    (c.failConnection cb attempt handler ec).Settled :=
  settled_callConnectHandler cb (doClose_spec cb h.toWriteInv h.quiet none).1 attempt handler _

/-- An unexpected disconnect settles the writes before `disconnect_handler` is called. -/
theorem settled_handleUnexpectedDisconnect {c : Client H σ} (h : c.WriteInv)
    (hq : c.writes.Quiet) (ec : ErrorCode) : (c.handleUnexpectedDisconnect cb ec).Settled := by
  unfold handleUnexpectedDisconnect
  by_cases hstate : c.state ≠ .connected
  · rw [if_pos hstate]
    exact settled_of_closed h hstate (hq hstate)
  · rw [if_neg hstate]
    have hset := (doClose_spec cb h hq none).1
    exact settled_runCallback (settled_of_writes hset (writes_log _ rfl)) _

/-! ## Connecting -/

/-- The guard at the head of the attempt's handlers: behind it only the branch that goes on
has to be looked at. -/
theorem settled_ifConnecting {c : Client H σ} (h : c.Settled) {k : Stream → Client H σ}
    (hk : ∀ ws, c.ws = some ws → c.state = .connecting → (k ws).Settled) :
    (c.ifConnecting k).Settled := by
  unfold ifConnecting
  cases hws : c.ws with
  | none => exact h
  | some ws =>
    by_cases hstate : c.isConnecting = true
    · simpa only [hstate, if_true] using hk ws hws (by simpa [isConnecting] using hstate)
    · simpa only [if_neg hstate] using h

theorem settled_startPhase {c : Client H σ} (h : c.Settled) (ws : Stream) (phase : Phase)
    (attempt : Nat) (handler : Option H) : (c.startPhase ws phase attempt handler).Settled :=
  settled_of_writes h (writes_startOp c fun _ => rfl)

theorem settled_log {c : Client H σ} (h : c.Settled) {o : Obs H} (ho : o.asWrite = none) :
    (c.log o).Settled := settled_of_writes h (writes_log c ho)

/-- `do_connect()` starts from a queue that is empty already. -/
theorem settled_doConnect {c : Client H σ} (h : c.Settled) (handler : Option H) :
    (c.doConnect cb handler).Settled := by
  unfold doConnect
  by_cases hstate : c.state ≠ .disconnected
  · rw [if_pos hstate]
    cases handler with
    | none => exact h
    | some handler => exact settled_runCallback (settled_log h rfl) _
  · rw [if_neg hstate]
    have hdisc : c.state ≠ .connected := by
      rw [Decidable.not_not.mp hstate]
      decide
    have hconnecting : ConnectionState.connecting ≠ .connected := by decide
    refine settled_startPhase (settled_log (settled_log ?_ rfl) rfl) _ _ _ _
    exact settled_of_closed
      ⟨h.transport.setState hdisc hconnecting _, ⟨h.ledger.1, h.ledger.2⟩⟩ hconnecting
      (h.quiet hdisc)

/-- The resolver's result leaves the writes settled. -/
theorem settled_handleResolve {c : Client H σ} (h : c.Settled) (attempt : Nat)
    (handler : Option H) (r : Completion) : (c.handleResolve cb attempt handler r).Settled := by
  refine settled_ifConnecting h fun ws _ _ => ?_
  cases r.ec with
  | some e => exact settled_failConnection cb h attempt handler _
  | none => exact settled_startPhase h ws _ attempt handler

/-- The TCP connect's result leaves the writes settled. -/
theorem settled_handleConnect {c : Client H σ} (h : c.Settled) (attempt : Nat)
    (handler : Option H) (r : Completion) : (c.handleConnect cb attempt handler r).Settled := by
  refine settled_ifConnecting h fun ws _ _ => ?_
  have hname := settled_log h (o := .target attempt (.serverName c.host)) rfl
  have hverify := settled_log hname (o := .target attempt (.verification c.host)) rfl
  cases r.ec with
  | some e => exact settled_failConnection cb h attempt handler _
  | none =>
    cases r.noDelay with
    | some e => exact settled_failConnection cb h attempt handler _
    | none =>
      cases r.serverName with
      | some e => exact settled_failConnection cb hname attempt handler _
      | none =>
        cases r.verifyCallback with
        | some e => exact settled_failConnection cb hverify attempt handler _
        | none => exact settled_startPhase hverify ws _ attempt handler

/-- The TLS handshake's result leaves the writes settled. -/
theorem settled_handleSslHandshake {c : Client H σ} (h : c.Settled) (attempt : Nat)
    (handler : Option H) (r : Completion) :
    (c.handleSslHandshake cb attempt handler r).Settled := by
  refine settled_ifConnecting h fun ws _ _ => ?_
  cases r.ec with
  | some e => exact settled_failConnection cb h attempt handler _
  | none => exact settled_startPhase (settled_log h rfl) ws _ attempt handler

theorem settled_startRead {c : Client H σ} (h : c.Settled) : c.startRead.Settled :=
  settled_of_writes h (writes_startRead c)

/-- The handshake that completes the connection: an empty queue is settled in `connected`
too. -/
theorem settled_handleWebsocketHandshake {c : Client H σ} (h : c.Settled) (attempt : Nat)
    (handler : Option H) (r : Completion) :
    (c.handleWebsocketHandshake cb attempt handler r).Settled := by
  refine settled_ifConnecting h fun ws hws hstate => ?_
  cases r.ec with
  | some e => exact settled_failConnection cb h attempt handler _
  | none =>
    have hclosed : c.state ≠ .connected := by
      rw [hstate]
      decide
    have hnil : c.writes.queue = [] := h.quiet hclosed
    have hconn : (((c.setState .connected).log (.attempt (.connected attempt))).log
        (.write (.opened c.writeGeneration))).Settled := by
      have hw : (((c.setState .connected).log (.attempt (.connected attempt))).log
          (.write (.opened c.writeGeneration))).writes =
            Writes.record { c.writes with state := .connected } (.opened c.writeGeneration) := by
        rw [writes_log_write, writes_log _ rfl]
        rfl
      -- the queue was empty, so the new connection has no write of the old one
      have hledger : ({ c.writes with state := .connected } : Writes).Ledger none :=
        ⟨h.ledger.1, h.ledger.2⟩
      refine settled_of_connected ⟨?_, ?_⟩ rfl ?_
      · rw [hw]
        exact h.transport.connect hclosed hnil (by simp [writes, hws])
      · rw [hw]
        exact hledger.record rfl rfl rfl
      · rw [hw]
        exact fun _ hq => absurd hnil hq
    have hcalled := settled_callConnectHandler cb hconn attempt handler none
    refine settled_of_writes hcalled ?_
    show (Client.startPingTimer (Client.startRead (Client.startReadTimer _)) _).writes = _
    rw [writes_startPingTimer, writes_startRead, writes_startReadTimer]
    rfl

/-! ## Reading and writing -/

/-- A message, or the end of the connection that a read reports, leaves the writes
settled. -/
theorem settled_handleRead {c : Client H σ} (h : c.Settled) (r : Completion) :
    (c.handleRead cb r).Settled := by
  unfold handleRead
  by_cases hconn : (!c.isConnected) = true
  · simpa only [hconn, if_true] using h
  · simp only [hconn, Bool.false_eq_true, if_false]
    cases r.ec with
    | some e => exact settled_handleUnexpectedDisconnect cb h.toWriteInv h.quiet _
    | none =>
      have htime : c.setLastReadTime.Settled := settled_of_writes h rfl
      have hcalled := settled_callMessageHandler cb htime
      exact settled_startRead (settled_of_writes hcalled rfl)

/-- `do_write()` stores the handler, or calls it with the error. -/
theorem settled_doWrite {c : Client H σ} (h : c.Settled) (message : List UInt8)
    (handler : Option HandlerId) : (c.doWrite cb message handler).2.Settled := by
  have hw : (c.log (.write (.submitted handler))).writes =
      c.writes.record (.submitted handler) := writes_log_write c _
  have ht : (c.log (.write (.submitted handler))).writes.Transport := by
    rw [hw]
    exact h.transport.record rfl
  have hl : (c.log (.write (.submitted handler))).writes.Ledger handler := by
    rw [hw]
    exact h.ledger.submit handler
  have hping : (⟨.message, message, handler⟩ : WriteItem).type = .ping → message = [] :=
    fun h => by cases h
  unfold doWrite
  rcases queueWrite_cases (c.log (.write (.submitted handler))) hping with
    ⟨code, hq⟩ | ⟨c', hq, -, hconn, hflow, hinv⟩
  -- rejected: the handler is called with the error, if there is one
  · rw [hq]
    cases handler with
    | none => exact ⟨⟨ht, hl⟩, h.quiet, h.flowing⟩
    | some handler =>
      have hw' := writes_log_write (c.log (.write (.submitted (some handler))))
        (.rejected handler code)
      have hset : (((c.log (.write (.submitted (some handler)))).log
          (.write (.rejected handler code))).callWriteHandler cb (some handler)
            (some (.errc code))).Settled := by
        refine settled_callWriteHandler cb ?_ ?_ h.quiet h.flowing
        · rw [hw']
          exact (ht.record rfl).answer _ _
        · rw [hw']
          exact hl.answer rfl rfl rfl
      exact hset
  · rw [hq]
    exact settled_of_connected (hinv ht hl) hconn hflow

/-- A protocol ping is queued like a write of user code, or refused. -/
theorem settled_doProtocolPing {c : Client H σ} (h : c.Settled) : c.doProtocolPing.2.Settled := by
  have hping : (⟨.ping, [], none⟩ : WriteItem).type = .ping → ([] : List UInt8) = [] :=
    fun _ => rfl
  unfold doProtocolPing
  rcases queueWrite_cases c hping with ⟨code, hq⟩ | ⟨c', hq, -, hconn, hflow, hinv⟩
  · rw [hq]
    exact h
  · rw [hq]
    exact settled_of_connected (hinv h.transport h.ledger) hconn hflow

/-- An operation that is no write completes. -/
theorem writes_eraseOp [DecidableEq H] (c : Client H σ) {op : Op H}
    (hop : ∀ g, op.asSending g = none) :
    (c.removeOp op).writes = c.writes :=
  Writes.ext rfl rfl rfl rfl rfl (funext fun g => filterMap_erase_of_none (hop g) c.ops) rfl

/-- The completion of a write of an earlier connection does nothing. -/
theorem complete_stale {c : Client H σ} {stream generation : Nat}
    {slot : Fin (2 ^ writeSlotCountLog)} {item : WriteItem} (r : Completion)
    (hstale : generation ≠ c.writeGeneration) :
    c.complete cb (.send stream generation slot item) r = c := by
  simp [complete, logCompletion, handleWrite, hstale]

/-- The completion of a write of the current connection. -/
theorem complete_current {c : Client H σ} (hconn : c.state = .connected) (stream : Nat)
    (slot : Fin (2 ^ writeSlotCountLog)) (item : WriteItem) (r : Completion) :
    c.complete cb (.send stream c.writeGeneration slot item) r =
      ((c.log (.write (.completed item r.ec))).releaseFront.callWriteHandler cb
        c.writeSlots.getFront.handler (AsioError.toErrorCode r.ec)).continueWriting cb r.ec := by
  simp [complete, logCompletion, handleWrite, hconn, log, isConnected]

/-- `handle_write()` after the front slot was popped: its handler is called, and
then the next write is started or the connection is closed. -/
theorem settled_continueWriting {c : Client H σ} {handler : Option HandlerId}
    {ec : Option ErrorCode} (hconn : c.state = .connected)
    (ht : (c.writes.answer handler ec).Transport) (hl : (c.writes.answer handler ec).Ledger none)
    (e : Option AsioError) :
    ((c.callWriteHandler cb handler ec).continueWriting cb e).Settled := by
  have hcalled := writeInv_callWriteHandler cb ht hl
  have hconn' : (c.callWriteHandler cb handler ec).state = .connected := by
    exact ((stateFrame cb).callWriteHandler c handler ec).trans hconn
  cases e with
  | some e => exact settled_handleUnexpectedDisconnect cb hcalled (fun hne => absurd hconn' hne) _
  | none =>
    exact settled_of_connected (writeInv_startWrite hcalled hconn')
      (((stateFrame cb).startWrite _).trans hconn')
      (flowing_startWrite (hcalled.transport.stream hconn'))

/-- The client in which the handler of the write that completes is called: the
front slot was popped. -/
def popFinished [DecidableEq H] (c : Client H σ) (op : Op H) (item : WriteItem)
    (ec : Option AsioError) : Client H σ :=
  ((c.removeOp op).log (.write (.completed item ec))).releaseFront

/-- The result of a sending of this connection releases the front slot, calls its handler
and goes on with the next write. -/
theorem complete_popFinished [DecidableEq H] {c : Client H σ} (hconn : c.state = .connected)
    (stream : Nat) (slot : Fin (2 ^ writeSlotCountLog)) (item : WriteItem) (r : Completion) :
    (c.removeOp (.send stream c.writeGeneration slot item)).complete cb
        (.send stream c.writeGeneration slot item) r =
      ((c.popFinished (.send stream c.writeGeneration slot item) item r.ec).callWriteHandler cb
        c.writeSlots.getFront.handler (AsioError.toErrorCode r.ec)).continueWriting cb r.ec :=
  complete_current cb (c := c.removeOp (.send stream c.writeGeneration slot item)) hconn stream
    slot item r

/-- The write in flight completes: its handler is the one to be called. -/
theorem answerable_popFinished [DecidableEq H] {c : Client H σ} (h : c.Settled) {stream : Nat}
    {slot : Fin (2 ^ writeSlotCountLog)} {item : WriteItem}
    (hop : .send stream c.writeGeneration slot item ∈ c.ops) (ec : Option AsioError) :
    let popped := c.popFinished (.send stream c.writeGeneration slot item) item ec
    let answered := popped.writes.answer c.writeSlots.getFront.handler (AsioError.toErrorCode ec)
    c.state = .connected ∧ answered.Transport ∧ answered.Ledger none := by
  have hmem : (⟨stream, slot, item⟩ : Sending) ∈ c.writes.sendings c.writeGeneration :=
    List.mem_filterMap.mpr ⟨_, hop, by simp [Op.asSending]⟩
  have hother : ∀ g, g ≠ c.writeGeneration →
      (c.ops.erase (.send stream c.writeGeneration slot item)).filterMap (Op.asSending g) =
        c.writes.sendings g := fun g hg =>
    filterMap_erase_of_none (by simp [Op.asSending, Ne.symm hg]) c.ops
  obtain ⟨hsends, hsize, hitem⟩ := h.transport.front_of_mem hmem
  have hnone : (c.ops.erase (.send stream c.writeGeneration slot item)).filterMap
      (Op.asSending c.writeGeneration) = [] :=
    filterMap_erase_of_singleton hop (by simp [Op.asSending]; rfl) hsends
  have ht := h.transport.finish hmem hnone hother ec
  have hl := h.ledger.finish h.transport.wellFormed hsize
    (fun g => (c.ops.erase (.send stream c.writeGeneration slot item)).filterMap
      (Op.asSending g)) ec
  rw [hitem] at hl
  have hw : (c.popFinished (.send stream c.writeGeneration slot item) item ec).writes.answer
      c.writeSlots.getFront.handler (AsioError.toErrorCode ec) =
        c.writes.finish (fun g => (c.ops.erase (.send stream c.writeGeneration slot item)).filterMap
          (Op.asSending g)) item ec := by
    simp [popFinished, releaseFront, removeOp, log, writes, Writes.finish, Writes.record,
      Writes.pop, Obs.asWrite]
  have hbusy := (h.transport.sound.eq_cons_of_mem (List.mem_map_of_mem hmem)).1
  exact ⟨of_decide_eq_true (h.transport.sound.busy hbusy).1, hw ▸ ht, hw ▸ hl⟩

/-- The completion of a write. -/
theorem settled_completeSend [DecidableEq H] {c : Client H σ} (h : c.Settled) {stream : Nat}
    {generation : Nat} {slot : Fin (2 ^ writeSlotCountLog)} {item : WriteItem}
    (hop : .send stream generation slot item ∈ c.ops) (r : Completion) :
    ((c.removeOp (.send stream generation slot item)).complete cb
      (.send stream generation slot item) r).Settled := by
  by_cases hstale : generation ≠ c.writeGeneration
  · rw [complete_stale (c := c.removeOp _) cb r hstale]
    have hmem : (⟨stream, slot, item⟩ : Sending) ∈ c.writes.sendings generation :=
      List.mem_filterMap.mpr ⟨_, hop, by simp [Op.asSending]⟩
    have heq : ∀ g, c.writes.generation ≤ g →
        (c.ops.erase (.send stream generation slot item)).filterMap (Op.asSending g) =
          c.writes.sendings g := by
      intro g hg
      have hgen : generation ≠ g := by
        rintro rfl
        -- no write of a later generation is outstanding
        have hlt : c.writes.outbox.generation < generation :=
          Nat.lt_of_le_of_ne hg (Ne.symm hstale)
        have hnil := List.map_eq_nil_iff.mp (h.transport.sound.future generation hlt)
        rw [hnil] at hmem
        cases hmem
      exact filterMap_erase_of_none (by simp [Op.asSending, hgen]) c.ops
    exact ⟨⟨h.transport.withSendings heq, ⟨h.ledger.1, h.ledger.2⟩⟩, h.quiet, h.flowing⟩
  · obtain rfl : generation = c.writeGeneration := Decidable.not_not.mp hstale
    obtain ⟨hconn, ht, hl⟩ := answerable_popFinished h hop r.ec
    rw [complete_popFinished cb hconn]
    exact settled_continueWriting cb (c := c.popFinished _ item r.ec) hconn ht hl r.ec

/-! ## Timers -/

theorem settled_startPingTimer {c : Client H σ} (h : c.Settled) (delay : Int) :
    (c.startPingTimer delay).Settled := settled_of_writes h (writes_startPingTimer c delay)

theorem settled_startReadTimer {c : Client H σ} (h : c.Settled) : c.startReadTimer.Settled :=
  settled_of_writes h (writes_startReadTimer c)

/-- The ping timer may queue a ping, and is started again. -/
theorem settled_handlePingTimer {c : Client H σ} (h : c.Settled) (status : WaitStatus) :
    (c.handlePingTimer cb status).Settled := by
  unfold handlePingTimer
  split
  · exact h
  · refine settled_startPingTimer ?_ _
    cases c.pingMessageGenerator with
    | none => exact settled_doProtocolPing h
    | some handler => exact settled_doWrite cb (settled_runCallback h _) _ none

/-- The read timer may end the connection, which answers the queued writes. -/
theorem settled_handleReadTimeout {c : Client H σ} (h : c.Settled) (status : WaitStatus) :
    (c.handleReadTimeout cb status).Settled := by
  unfold handleReadTimeout
  split
  · exact h
  · split
    · exact settled_startReadTimer h
    · exact settled_handleUnexpectedDisconnect cb h.toWriteInv h.quiet _

/-- A new ping interval rearms a timer, nothing else. -/
theorem settled_setPingInterval {c : Client H σ} (h : c.Settled) (interval : Int) :
    (c.setPingInterval interval).Settled := by
  have hset : ({ c with pingInterval := interval } : Client H σ).Settled := settled_of_writes h rfl
  have hstop : ({ c with pingInterval := interval } : Client H σ).stopPingTimer.Settled :=
    settled_of_writes h rfl
  simp only [setPingInterval]
  split
  · exact hset
  · exact settled_startPingTimer hstop _

/-- A new read timeout rearms a timer, nothing else. -/
theorem settled_setReadTimeout {c : Client H σ} (h : c.Settled) (timeout : Int) :
    (c.setReadTimeout timeout).Settled := by
  have hset : ({ c with readTimeout := timeout } : Client H σ).Settled := settled_of_writes h rfl
  have hstop : ({ c with
      readTimeout := timeout } : Client H σ).setLastReadTime.stopReadTimer.Settled :=
    settled_of_writes h rfl
  simp only [setReadTimeout]
  split
  · exact hset
  · exact settled_startReadTimer hstop

/-! ## The system -/

/-- A new client has no write. -/
theorem settled_create (owner : σ) (now : Int) : (create owner now : Client H σ).Settled where
  transport := {
    wellFormed := by simp [create, writes, FixedRingBuffer.WellFormed, FixedRingBuffer.emptyAt,
      FixedRingBuffer.getSize]
    stream := fun hconn => by cases hconn
    sound := by
      have houtbox : (create owner now : Client H σ).writes.outbox =
          ⟨false, 0, [], false, fun _ => [], []⟩ := by
        simp [Writes.outbox, writes, create, Writes.queue, FixedRingBuffer.toList_emptyAt]
      rw [houtbox]
      exact Outbox.Sound.empty
    inPlace := fun _ hs => by cases hs }
  ledger := ⟨rfl, by
    simp [Writes.submissions, Writes.answers, Writes.queuedHandlers, Writes.queue, writes, create,
      FixedRingBuffer.toList_emptyAt]⟩
  quiet := fun _ => by simp [Writes.queue, writes, create, FixedRingBuffer.toList_emptyAt]
  flowing := fun hconn => by cases hconn

/-- `close()` from user code settles the writes. -/
theorem settled_close {c : Client H σ} (h : c.Settled) (handler : Option HandlerId) :
    (c.close cb handler).Settled := by
  unfold close
  split
  · have hlog : (c.log (.attempt (.closed c.attempt))).Settled := settled_log h rfl
    exact (doClose_spec cb hlog.toWriteInv hlog.quiet handler).1
  · exact (doClose_spec cb h.toWriteInv h.quiet handler).1

/-- Every completion handler leaves the client settled, those of an earlier connection
included. -/
theorem settled_complete [DecidableEq H] {c : Client H σ} (h : c.Settled) {op : Op H}
    (hop : op ∈ c.ops) (r : Completion) :
    ((c.removeOp op).complete cb op r).Settled := by
  cases op with
  | connect stream phase attempt handler =>
    have herase : (c.removeOp (.connect stream phase attempt handler)).Settled :=
      settled_of_writes h (writes_eraseOp c fun _ => rfl)
    cases phase with
    | resolve => exact settled_handleResolve cb herase attempt handler r
    | connect => exact settled_handleConnect cb herase attempt handler r
    | sslHandshake => exact settled_handleSslHandshake cb herase attempt handler r
    | websocketHandshake => exact settled_handleWebsocketHandshake cb herase attempt handler r
  | read stream =>
    have hread : ({ c.removeOp (.read stream) with
        readBuffer := c.readBuffer.append r.received } : Client H σ).Settled :=
      settled_of_writes h (writes_eraseOp c fun _ => rfl)
    exact settled_handleRead cb hread r
  | send stream generation slot item => exact settled_completeSend cb h hop r

/-- Every callback of the executor leaves the writes settled. -/
theorem settled_step [DecidableEq H] {c c' : Client H σ} {e : Event H} (h : c.Settled)
    (he : c.step cb e = some c') : c'.Settled := by
  cases e with
  | assign a => cases he; cases a <;> exact settled_of_writes h rfl
  | connect handler => cases he; exact settled_doConnect cb h handler
  | close handler => cases he; exact settled_close cb h handler
  | write message handler => cases he; exact settled_doWrite cb h message handler
  | writeNow inThread message =>
    cases he
    rcases writeNow_cases c inThread message with heq | ⟨-, -, hinv⟩
    · rwa [heq]
    · exact hinv h.toWriteInv
  | setMessageHandler handler => cases he; exact settled_of_writes h rfl
  | setDisconnectHandler handler => cases he; exact settled_of_writes h rfl
  | setPingMessageGenerator generator => cases he; exact settled_of_writes h rfl
  | setPingInterval interval => cases he; exact settled_setPingInterval h interval
  | setReadTimeout timeout => cases he; exact settled_setReadTimeout h timeout
  | complete op r =>
    simp only [step] at he
    split at he
    · rename_i hop
      cases he
      exact settled_complete cb h hop r
    · cases he
  | firePingTimer w | fireReadTimer w =>
    obtain ⟨t, -, rfl⟩ := Option.map_eq_some_iff.mp he
    exact settled_of_writes h rfl
  | pingTimer w =>
    obtain ⟨t, -, rfl⟩ := Option.map_eq_some_iff.mp he
    have hset : ({ c with pingTimer := t } : Client H σ).Settled := settled_of_writes h rfl
    exact settled_handlePingTimer cb hset _
  | readTimer w =>
    obtain ⟨t, -, rfl⟩ := Option.map_eq_some_iff.mp he
    have hset : ({ c with readTimer := t } : Client H σ).Settled := settled_of_writes h rfl
    exact settled_handleReadTimeout cb hset _
  | advance duration => cases he; exact settled_of_writes h rfl

/-- **The writes are settled in every reachable state**, by induction on the run: each event
is one entry point of the class. -/
theorem settled_of_reachable [DecidableEq H] {c : Client H σ}
    (hr : Reachable (system cb) anyStep c) : c.Settled := by
  refine hr.invariant ?_ ?_
  · rintro c ⟨owner, now, rfl⟩
    exact settled_create owner now
  · intro c e c' h _ he
    exact settled_step cb h he

/-! ## Every write is answered once -/

/-- `do_write()` of a write that is rejected calls its handler with the error,
in a client in which nothing has changed. -/
theorem doWrite_of_rejected {c : Client H σ} {message : List UInt8} {handler : HandlerId}
    {code : Errc} (herr : c.queueWriteError ⟨.message, message, some handler⟩ = some code) :
    (c.doWrite cb message (some handler)).2 =
      ((c.log (.write (.submitted (some handler)))).log
        (.write (.rejected handler code))).callWriteHandler cb (some handler)
          (some (.errc code)) := by
  have herr' : (c.log (.write (.submitted (some handler)))).queueWriteError
      ⟨.message, message, some handler⟩ = some code := herr
  simp only [doWrite, queueWrite, herr']

/-- `do_write()` of a write that is accepted stores it and does not call its
handler. -/
theorem doWrite_of_accepted {c : Client H σ} {message : List UInt8} {handler : Option HandlerId}
    (herr : c.queueWriteError ⟨.message, message, handler⟩ = none) :
    (c.doWrite cb message handler).2 =
      ((c.log (.write (.submitted handler))).storeWrite
        ⟨.message, message, handler⟩).startWrite := by
  have herr' : (c.log (.write (.submitted handler))).queueWriteError
      ⟨.message, message, handler⟩ = none := herr
  simp only [doWrite, queueWrite, herr']

/-- **Every write is answered exactly once.** In every reachable state:

- the handlers `do_write()` was given are those that have been called and those
  in queued slots, each as often as it was given;
- the calls, in order, are the fates of the writes: the error of a rejection,
  the result of the write's own operation, `operation_canceled` if drained;
- a write that is rejected changes neither the queue nor the flag nor the
  generation, and its handler is called with the error; one that is accepted
  does not have its handler called by `do_write()`;
- a non-empty queue means that the client is connected;
- the completion of a write of an earlier connection changes nothing;
- the loop of `fail_pending_writes()`, which runs without a connection, ends
  with an empty queue after as many iterations as there were writes. -/
theorem writes_answered_once [DecidableEq H] {c : Client H σ}
    (hr : Reachable (system cb) anyStep c) :
    c.writes.submissions.Perm (c.writes.answers.map Prod.fst ++ c.writes.queuedHandlers) ∧
    c.writes.answers = c.writes.fates ∧
    (∀ item code, c.queueWriteError item = some code → c.queueWrite item = (some code, c)) ∧
    (∀ message handler code, c.queueWriteError ⟨.message, message, some handler⟩ = some code →
      (c.doWrite cb message (some handler)).2 =
        ((c.log (.write (.submitted (some handler)))).log
          (.write (.rejected handler code))).callWriteHandler cb (some handler)
            (some (.errc code))) ∧
    (∀ message handler, c.queueWriteError ⟨.message, message, handler⟩ = none →
      (c.doWrite cb message handler).2 =
        ((c.log (.write (.submitted handler))).storeWrite
          ⟨.message, message, handler⟩).startWrite) ∧
    (c.writeSlots.isEmpty = false → c.state = .connected) ∧
    (∀ stream generation slot item r, .send stream generation slot item ∈ c.ops →
      generation ≠ c.writeGeneration →
      c.step cb (.complete (.send stream generation slot item) r) =
        some (c.removeOp (.send stream generation slot item))) ∧
    (∀ c' : Client H σ, c'.state ≠ .connected → ∀ extra,
      (c'.drain cb c'.writeSlots.getSize).writeSlots.isEmpty = true ∧
      c'.drain cb (c'.writeSlots.getSize + extra) = c'.drain cb c'.writeSlots.getSize) := by
  have h := settled_of_reachable cb hr
  refine ⟨?_, h.ledger.fates.symm, ?_, ?_, ?_, ?_, ?_, ?_⟩
  · have hhandlers := h.ledger.handlers
    rwa [Option.toList_none, List.append_nil] at hhandlers
  · intro item code herr
    rw [queueWrite, herr]
  · exact fun message handler code herr => doWrite_of_rejected cb herr
  · exact fun message handler herr => doWrite_of_accepted cb herr
  -- a queued write would be answered, so without a connection there is none
  · intro hne
    by_contra hstate
    have hempty := (Writes.queue_eq_nil_iff c.writes).mp (h.quiet hstate)
    have hempty : c.writeSlots.isEmpty = true := hempty
    rw [hne] at hempty
    cases hempty
  · intro stream generation slot item r hop hstale
    rw [step, if_pos hop, complete_stale (c := c.removeOp _) cb r hstale]
  · intro c' hstate extra
    exact ⟨isEmpty_drain cb _ hstate (Nat.le_refl _), drain_add cb _ extra hstate (Nat.le_refl _)⟩

/-- A connection is established, a write is sent and completes, and two more are
queued, of which the first is being sent. -/
def threeWrites : List (Event Nat) :=
  [.connect (some 7), .complete (.connect 1 .resolve 1 (some 7)) {},
    .complete (.connect 1 .connect 1 (some 7)) {},
    .complete (.connect 1 .sslHandshake 1 (some 7)) {},
    .complete (.connect 1 .websocketHandshake 1 (some 7)) {},
    .write [104, 105] (some 3), .complete (.send 1 0 0 ⟨.message, [104, 105], some 3⟩) {},
    .write [1] (some 4), .write [2] (some 4)]

/-- Three writes of one connection, the first one answered. -/
theorem writes_answered_after_threeWrites :
    ∃ c, run (system (.silent : Callbacks Nat Unit)) anyStep (create () 0) threeWrites = some c ∧
      c.writes.answers = [(3, none)] ∧ c.writes.queuedHandlers = [4, 4] ∧
      c.writes.submissions.Perm [3, 4, 4] := by
  have hsome : ((run (system (.silent : Callbacks Nat Unit)) anyStep (create () 0) threeWrites).map
      fun c => (c.writes.answers, c.writes.queuedHandlers)) = some ([(3, none)], [4, 4]) := by
    decide
  obtain ⟨c, hrun, hc⟩ := Option.map_eq_some_iff.mp hsome
  obtain ⟨hanswers, hqueued⟩ := Prod.mk.inj hc
  have hr : Reachable (system (.silent : Callbacks Nat Unit)) anyStep c :=
    ⟨_, ⟨(), 0, rfl⟩, Path.of_run threeWrites hrun⟩
  refine ⟨c, hrun, hanswers, hqueued, ?_⟩
  have hperm := (writes_answered_once .silent hr).1
  rwa [hanswers, hqueued] at hperm

/-! ## The queue is sent in order -/

/-- **The write queue transmits faithfully.** In every reachable state:

- each connection has a generation of its own, and what was started on it is a
  prefix of what was accepted on it: in order, each write once, with its bytes;
- at most one write of the current generation is outstanding; it is on the
  current stream, and the slot it sends from still holds it;
- while connected, a write is in progress iff the queue is not empty, and the
  write in progress is that of the front slot. -/
theorem writes_transmitted_in_order [DecidableEq H] {c : Client H σ}
    (hr : Reachable (system cb) anyStep c) :
    (Outbox.openings c.writes.outbox.log).Pairwise (· < ·) ∧
    (∀ g, Outbox.startedIn g c.writes.outbox.log <+: Outbox.acceptedIn g c.writes.outbox.log) ∧
    (c.writes.sendings c.writeGeneration).length ≤ 1 ∧
    (∀ s ∈ c.writes.sendings c.writeGeneration,
      c.ws = some ⟨s.stream⟩ ∧ (c.writeSlots.buffer s.slot).item = s.item) ∧
    (c.state = .connected → (c.writeInProgress = true ↔ c.writeSlots.isEmpty = false)) ∧
    (c.writeInProgress = true →
      ∃ s ∈ c.writes.sendings c.writeGeneration, s.item = c.writeSlots.getFront.item) := by
  have h := settled_of_reachable cb hr
  have hsound := h.transport.sound
  have hcurrent : (c.writes.sendings c.writeGeneration).map Sending.item =
      if c.writeInProgress then c.writes.queue.take 1 else [] := hsound.current
  have hfront : c.writeInProgress = true → c.writes.slots.getSize ≠ 0 ∧
      (c.writes.sendings c.writeGeneration).map Sending.item = [c.writeSlots.getFront.item] := by
    intro hbusy
    have hsize := (Writes.queue_ne_nil_iff c.writes).mp (hsound.busy hbusy).2
    refine ⟨hsize, ?_⟩
    rw [hcurrent, if_pos hbusy, Writes.queue_eq_cons c.writes hsize]
    rfl
  refine ⟨hsound.openings, hsound.prefixes, ?_, ?_, ?_, ?_⟩
  · have hlen := hsound.length_sends
    rwa [Writes.outbox, List.length_map] at hlen
  -- the buffer of the outstanding write is the slot it was started from
  · intro s hs
    obtain ⟨hws, hslot⟩ := h.transport.inPlace s hs
    refine ⟨hws, ?_⟩
    rw [hslot]
    exact (h.transport.front_of_mem hs).2.2
  · intro hconn
    constructor
    · intro hbusy
      have hne := mt (FixedRingBuffer.isEmpty_iff c.writeSlots).mp (hfront hbusy).1
      simpa using hne
    · intro hne
      refine h.flowing hconn fun hnil => ?_
      have hempty : c.writeSlots.isEmpty = true := (Writes.queue_eq_nil_iff c.writes).mp hnil
      rw [hne] at hempty
      cases hempty
  · intro hbusy
    have hmem : c.writeSlots.getFront.item ∈
        (c.writes.sendings c.writeGeneration).map Sending.item := by
      rw [(hfront hbusy).2]
      exact List.mem_singleton_self _
    exact List.mem_map.mp hmem

/-- The first write's bytes are on the stream, and the others are still to come. -/
theorem writes_transmitted_after_threeWrites :
    ∃ c, run (system (.silent : Callbacks Nat Unit)) anyStep (create () 0) threeWrites = some c ∧
      Outbox.acceptedIn 0 c.writes.outbox.log =
        [⟨.message, [104, 105], some 3⟩, ⟨.message, [1], some 4⟩, ⟨.message, [2], some 4⟩] ∧
      Outbox.startedIn 0 c.writes.outbox.log <+: Outbox.acceptedIn 0 c.writes.outbox.log := by
  have hsome : ((run (system (.silent : Callbacks Nat Unit)) anyStep (create () 0) threeWrites).map
      fun c => Outbox.acceptedIn 0 c.writes.outbox.log) =
      some [⟨.message, [104, 105], some 3⟩, ⟨.message, [1], some 4⟩,
        ⟨.message, [2], some 4⟩] := by
    decide
  obtain ⟨c, hrun, hc⟩ := Option.map_eq_some_iff.mp hsome
  have hr : Reachable (system (.silent : Callbacks Nat Unit)) anyStep c :=
    ⟨_, ⟨(), 0, rfl⟩, Path.of_run threeWrites hrun⟩
  exact ⟨c, hrun, hc, (writes_transmitted_in_order .silent hr).2.1 0⟩

end Client

end CppComponents.SecureWebSocketClient
