import CppComponents.SecureWebSocketClient.WriteQueue

/-!
# The slots of the write queue are never lost

`queue_write()` refuses a write when all slots are in use, and nothing but a completion
or a close frees one. So the queue works as long as a slot is in use exactly while its
write is accepted and has neither completed nor been drained, over any number of
connections. What `queue_write()` answers is then a matter of the record: whether there
is a connection, the size of the message, and how many writes are under way.
-/

namespace CppComponents.SecureWebSocketClient

open CppComponents.Transition Outbox

variable {H σ : Type} {cb : Callbacks H σ} {c : Client H σ}

namespace Client

/-- The writes that have been accepted. -/
def acceptedWrites (c : Client H σ) : List WriteItem := Outbox.accepted c.writes.outbox.log

/-- The writes that have completed or been drained. -/
def releasedWrites (c : Client H σ) : List WriteItem := Outbox.released c.writes.outbox.log

/-- The writes that are under way. -/
def underWay (c : Client H σ) : Nat := c.acceptedWrites.length - c.releasedWrites.length

theorem Settled.acceptedWrites_eq (h : c.Settled) :
    c.acceptedWrites = c.releasedWrites ++ c.writes.queue := h.transport.sound.ledger

/-- The slots in use are those of the writes under way. -/
theorem Settled.getSize_eq (h : c.Settled) : c.writeSlots.getSize = c.underWay := by
  have hlength : c.writes.queue.length = c.writeSlots.getSize := by
    rw [Writes.queue, List.length_map, FixedRingBuffer.length_toList]
    rfl
  rw [underWay, h.acceptedWrites_eq, List.length_append, hlength]
  omega

theorem Settled.underWay_le (h : c.Settled) : c.underWay ≤ 2 ^ writeSlotCountLog := by
  rw [← h.getSize_eq]
  exact h.transport.wellFormed

theorem Settled.isFull_iff (h : c.Settled) :
    c.writeSlots.isFull = true ↔ c.underWay = 2 ^ writeSlotCountLog := by
  rw [FixedRingBuffer.isFull_iff, h.getSize_eq]

/-- A connected client has a stream, so the state alone decides. -/
theorem Settled.notConnected_iff (h : c.Settled) :
    c.state ≠ .connected ∨ c.ws = none ↔ c.state ≠ .connected := by
  constructor
  · rintro (hstate | hws)
    · exact hstate
    · exact fun hconn => h.transport.stream hconn hws
  · exact .inl

/-- The four answers of `queue_write()`. -/
theorem Settled.queueWriteError_eq (h : c.Settled) (item : WriteItem) :
    c.queueWriteError item =
      if c.state ≠ .connected then some .notConnected
      else if item.message.length > writeSlotSize then some .messageSize
      else if c.underWay = 2 ^ writeSlotCountLog then some .noBufferSpace
      else none := by
  unfold queueWriteError
  simp only [h.notConnected_iff, h.isFull_iff]

/-- A connected client refuses a write that fits only for want of a slot. -/
theorem Settled.noBufferSpace_iff (h : c.Settled) (item : WriteItem) :
    c.queueWriteError item = some .noBufferSpace ↔ c.state = .connected ∧
      item.message.length ≤ writeSlotSize ∧ c.underWay = 2 ^ writeSlotCountLog := by
  rw [h.queueWriteError_eq]
  constructor
  · intro herr
    split at herr
    · cases herr
    · rename_i hconn
      split at herr
      · cases herr
      · rename_i hlen
        split at herr
        · rename_i hfull
          exact ⟨Decidable.not_not.mp hconn, Nat.le_of_not_lt hlen, hfull⟩
        · cases herr
  · rintro ⟨hconn, hlen, hfull⟩
    rw [if_neg (not_not_intro hconn), if_neg (Nat.not_lt_of_le hlen), if_pos hfull]

/-- Everything else that `queue_write()` asks for is the connection and the length. -/
theorem Settled.accepts_iff (h : c.Settled) (item : WriteItem) :
    c.queueWriteError item = none ↔ c.state = .connected ∧
      item.message.length ≤ writeSlotSize ∧ c.underWay < 2 ^ writeSlotCountLog := by
  constructor
  · intro herr
    obtain ⟨hconn, -, hlen, hfull⟩ := queueWriteError_eq_none herr
    rw [h.isFull_iff] at hfull
    exact ⟨hconn, hlen, Nat.lt_of_le_of_ne h.underWay_le hfull⟩
  · rintro ⟨hconn, hlen, hroom⟩
    rw [h.queueWriteError_eq, if_neg (not_not_intro hconn), if_neg (Nat.not_lt_of_le hlen),
      if_neg (Nat.ne_of_lt hroom)]

/-! ## What has been recorded stays -/

/-- The record of `c'` goes on from that of `c`. -/
def ProlongedBy (c c' : Client H σ) : Prop := c.trace <+: c'.trace

namespace ProlongedBy

variable {c' c'' : Client H σ}

theorem refl (c : Client H σ) : c.ProlongedBy c := List.prefix_rfl

theorem trans (h : c.ProlongedBy c') (h' : c'.ProlongedBy c'') : c.ProlongedBy c'' :=
  List.IsPrefix.trans h h'

theorem log (c : Client H σ) (o : Obs H) : c.ProlongedBy (c.log o) := List.prefix_append _ _

/-- `start_write()` only adds to the record. -/
theorem startWrite (c : Client H σ) : c.ProlongedBy c.startWrite := by
  unfold Client.startWrite
  split
  · exact refl c
  · split
    · exact refl c
    · exact List.prefix_append _ _

/-- `queue_write()` only adds to the record. -/
theorem queueWrite (c : Client H σ) (item : WriteItem) : c.ProlongedBy (c.queueWrite item).2 := by
  unfold Client.queueWrite
  split
  · exact refl c
  · have hstore : c.ProlongedBy (c.storeWrite item) := List.prefix_append _ _
    exact hstore.trans (startWrite _)

/-- A nested `write_now()` only adds to the record. -/
theorem writeNow (c : Client H σ) (inThread : Bool) (message : List UInt8) :
    c.ProlongedBy (c.writeNow inThread message).2 := by
  unfold Client.writeNow
  split
  · exact refl c
  · exact queueWrite c _

theorem runCallback (c : Client H σ) (f : Callback σ) : c.ProlongedBy (c.runCallback f) :=
  runCallback_rule (P := c.ProlongedBy) f List.prefix_rfl fun c' message h =>
    h.trans (writeNow c' true message)

theorem callWriteHandler (c : Client H σ) (handler : Option HandlerId) (ec : Option ErrorCode) :
    c.ProlongedBy (c.callWriteHandler cb handler ec) := by
  cases handler with
  | none => exact refl c
  | some handler => exact (log c _).trans (runCallback _ _)

/-- Each round of the draining loop only adds to the record. -/
theorem drain (fuel : Nat) : ∀ c : Client H σ, c.ProlongedBy (c.drain cb fuel) := by
  induction fuel with
  | zero => exact refl
  | succ fuel ih =>
    intro c
    unfold Client.drain
    split
    · exact refl c
    · have hone : c.ProlongedBy (c.drainOne cb) := by
        refine ProlongedBy.trans ?_ (callWriteHandler _ _ _)
        exact List.prefix_append _ _
      exact hone.trans (ih _)

/-- Ending the connection only adds to the record. -/
theorem handleUnexpectedDisconnect (c : Client H σ) (ec : ErrorCode) :
    c.ProlongedBy (c.handleUnexpectedDisconnect cb ec) := by
  unfold Client.handleUnexpectedDisconnect
  split
  · exact refl c
  · have hclose : c.ProlongedBy (c.doClose cb none) := by
      unfold doClose
      split
      · -- what comes before the loop and after it records nothing
        have hdrain : ProlongedBy _ (Client.drain cb _ c.writeSlots.getSize) := drain _ { c with
          state := .closing
          pingTimer := c.pingTimer.cancel
          readTimer := c.readTimer.cancel
          writeGeneration := c.writeGeneration + 1
          writeInProgress := false }
        exact hdrain
      · exact refl c
    exact hclose.trans ((log _ _).trans (runCallback _ _))

theorem continueWriting (c : Client H σ) (ec : Option AsioError) :
    c.ProlongedBy (c.continueWriting cb ec) := by
  cases ec with
  | none => exact startWrite c
  | some ec => exact handleUnexpectedDisconnect c _

end ProlongedBy

/-- What has been released stays released. -/
theorem ProlongedBy.releasedWrites {c' : Client H σ} (h : c.ProlongedBy c') :
    c.releasedWrites <+: c'.releasedWrites := by
  obtain ⟨l, hl⟩ := h
  simp only [Client.releasedWrites, Outbox.released, Writes.outbox, Client.writes, ← hl,
    List.filterMap_append]
  exact List.prefix_append _ _

/-! ## The slots -/

/-- While writes are queued, the one at the front is being sent. -/
theorem Settled.exists_send (h : c.Settled) {item : WriteItem} {rest : List WriteItem}
    (hqueue : c.writes.queue = item :: rest) : c.state = .connected ∧
    ∃ stream slot, .send stream c.writeGeneration slot item ∈ c.ops := by
  have hconn : c.state = .connected := by
    by_contra hstate
    have hnil := h.quiet hstate
    rw [hqueue] at hnil
    cases hnil
  have hbusy : c.writeInProgress = true := h.flowing hconn (by simp [hqueue])
  have hcurrent : (c.writes.sendings c.writeGeneration).map Sending.item =
      if c.writeInProgress then c.writes.queue.take 1 else [] := h.transport.sound.current
  rw [if_pos hbusy, hqueue] at hcurrent
  have hmem : item ∈ (c.writes.sendings c.writeGeneration).map Sending.item := by
    rw [hcurrent]
    exact List.mem_singleton_self item
  obtain ⟨s, hs, rfl⟩ := List.mem_map.mp hmem
  -- the sendings are read off the outstanding operations
  obtain ⟨op, hop, hsending⟩ := List.mem_filterMap.mp hs
  cases op with
  | connect | read => cases hsending
  | send stream generation slot item =>
    obtain ⟨rfl, heq⟩ := Option.ite_none_right_eq_some.mp hsending
    cases heq
    exact ⟨hconn, stream, slot, hop⟩

/-- The write in flight completes. -/
theorem releasedWrites_complete [DecidableEq H] (hconn : c.state = .connected) (stream : Nat)
    (slot : Fin (2 ^ writeSlotCountLog)) (item : WriteItem) (r : Completion) :
    c.releasedWrites ++ [item] <+: Client.releasedWrites
      ((c.removeOp (.send stream c.writeGeneration slot item)).complete cb
        (.send stream c.writeGeneration slot item) r) := by
  have hlog : (c.log (.write (.completed item r.ec))).releasedWrites =
      c.releasedWrites ++ [item] := by
    rw [releasedWrites, writes_log_write, Writes.outbox_record]
    exact Outbox.released_snoc _ _
  have hcomplete := complete_current cb
    (c := c.removeOp (.send stream c.writeGeneration slot item)) hconn stream slot item r
  have hgeneration : (c.removeOp (.send stream c.writeGeneration slot item)).writeGeneration =
      c.writeGeneration := rfl
  rw [hgeneration] at hcomplete
  rw [← hlog, hcomplete]
  refine ProlongedBy.releasedWrites ?_
  have hrelease : (c.log (.write (.completed item r.ec))).ProlongedBy
      ((c.removeOp (.send stream c.writeGeneration slot item)).log
        (.write (.completed item r.ec))).releaseFront := List.prefix_rfl
  exact hrelease.trans
    ((ProlongedBy.callWriteHandler _ _ _).trans (ProlongedBy.continueWriting _ _))

/-- **No slot is ever lost.** In every reachable state:

- the writes leave the queue in the order in which they were accepted, and as many slots
  are in use as writes are under way, at most 2048;
- without a connection none is, so a new one starts with all slots free;
- `queue_write()` answers `no_buffer_space` exactly if 2048 writes are under way, the
  client is connected and the message fits a slot, and it accepts the message exactly if
  fewer are;
- while a write is under way, the one accepted first is outstanding on the current
  connection, and whatever it completes with, it is released. -/
theorem slots_never_lost [DecidableEq H] (hr : Reachable (system cb) anyStep c) :
    c.releasedWrites <+: c.acceptedWrites ∧ c.writeSlots.getSize = c.underWay ∧
    c.underWay ≤ 2 ^ writeSlotCountLog ∧
    (c.state ≠ .connected → c.acceptedWrites = c.releasedWrites) ∧
    (∀ item, c.queueWriteError item = some .noBufferSpace ↔ c.state = .connected ∧
      item.message.length ≤ writeSlotSize ∧ c.underWay = 2 ^ writeSlotCountLog) ∧
    (∀ item, c.queueWriteError item = none ↔ c.state = .connected ∧
      item.message.length ≤ writeSlotSize ∧ c.underWay < 2 ^ writeSlotCountLog) ∧
    (0 < c.underWay → ∃ stream slot item rest,
      .send stream c.writeGeneration slot item ∈ c.ops ∧
        c.acceptedWrites = c.releasedWrites ++ item :: rest ∧
        ∀ r, ∃ c', c.step cb (.complete (.send stream c.writeGeneration slot item) r) = some c' ∧
          c.releasedWrites ++ [item] <+: c'.releasedWrites) := by
  have h := settled_of_reachable cb hr
  refine ⟨?_, h.getSize_eq, h.underWay_le, ?_, h.noBufferSpace_iff, h.accepts_iff, ?_⟩
  · rw [h.acceptedWrites_eq]
    exact List.prefix_append _ _
  · intro hstate
    rw [h.acceptedWrites_eq, h.quiet hstate, List.append_nil]
  · intro hpos
    cases hqueue : c.writes.queue with
    | nil =>
      have hzero := h.acceptedWrites_eq
      rw [hqueue, List.append_nil] at hzero
      rw [underWay, hzero] at hpos
      omega
    | cons item rest =>
      obtain ⟨hconn, stream, slot, hop⟩ := h.exists_send hqueue
      refine ⟨stream, slot, item, rest, hop, hqueue ▸ h.acceptedWrites_eq, fun r => ?_⟩
      refine ⟨_, if_pos hop, ?_⟩
      exact releasedWrites_complete hconn stream slot item r

/-- Three writes have been accepted and one has completed. -/
theorem slots_never_lost_threeWrites :
    ∃ c, run (system (.silent : Callbacks Nat Unit)) anyStep (create () 0) threeWrites = some c ∧
      c.underWay = 2 ∧ c.writeSlots.getSize = 2 ∧
      ∃ stream slot item rest, .send stream c.writeGeneration slot item ∈ c.ops ∧
        c.acceptedWrites = c.releasedWrites ++ item :: rest := by
  have hany : (run (system (.silent : Callbacks Nat Unit)) anyStep (create () 0)
      threeWrites).any (fun c => c.underWay = 2) = true := by decide
  obtain ⟨c, hrun, hc⟩ := (Option.any_eq_true _ _).mp hany
  have hunder : c.underWay = 2 := of_decide_eq_true hc
  have hr : Reachable (system (.silent : Callbacks Nat Unit)) anyStep c :=
    ⟨_, ⟨(), 0, rfl⟩, Path.of_run threeWrites hrun⟩
  obtain ⟨-, hsize, -, -, -, -, hsending⟩ := slots_never_lost hr
  obtain ⟨stream, slot, item, rest, hop, heq, -⟩ := hsending (by omega)
  exact ⟨c, hrun, hunder, hsize.trans hunder, stream, slot, item, rest, hop, heq⟩

end Client

end CppComponents.SecureWebSocketClient
