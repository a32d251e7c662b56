import CppComponents.Outbox
import CppComponents.SecureWebSocketClient.Model

/-!
# The write queue of the WebSocket client

`Writes` is the part of a client that concerns its writes. Most functions of
the client leave it alone (`writes_*`); the others act on it as the outbox
library's operations act on `Writes.outbox`: `queue_write()` accepts and
starts, `handle_write()` finishes, `do_close()` disconnects and drops.

`Writes.Inv` is what holds whenever user code runs, in the middle of those
functions too. It adds to `Outbox.Sound` what the outbox does not see: the
write in flight is that of the front slot, in place, and every write handler
that `do_write()` was given has been called, or is in a slot, or is `held` by
the function that is running.
-/

namespace CppComponents.SecureWebSocketClient

open Outbox

variable {H σ : Type}

/-! ## The view -/

/-- An outstanding write or ping: its stream, the slot it sends, the bytes. -/
structure Sending where
  stream : Nat
  slot : Fin (2 ^ writeSlotCountLog)
  item : WriteItem
  deriving DecidableEq

/-- The outstanding writes of generation `g`. -/
def Op.asSending (g : Nat) : Op H → Option Sending
  | .send stream g' slot item => if g' = g then some ⟨stream, slot, item⟩ else none
  | _ => none

def Obs.asWrite : Obs H → Option WriteObs
  | .write o => some o
  | _ => none

def WriteObs.asRecord : WriteObs → Option (Record WriteItem)
  | .opened g => some (.opened g)
  | .accepted g item => some (.accepted g item)
  | .started g item => some (.started g item)
  | .completed item _ => some (.released item)
  | .drained item => some (.released item)
  | _ => none

/-- The write handlers `do_write()` was given. -/
def WriteObs.asSubmission : WriteObs → Option HandlerId
  | .submitted handler => handler
  | _ => none

/-- The calls of write handlers. -/
def WriteObs.asAnswer : WriteObs → Option (HandlerId × Option ErrorCode)
  | .answered handler ec => some (handler, ec)
  | _ => none

/-- What became of a write that had a handler: the error it was rejected with,
the result of its own operation, or `operation_canceled` if it was drained. -/
def WriteObs.asFate : WriteObs → Option (HandlerId × Option ErrorCode)
  | .rejected handler code => some (handler, some (.errc code))
  | .completed item ec => item.handler.map fun h => (h, AsioError.toErrorCode ec)
  | .drained item => item.handler.map fun h => (h, some (.errc .operationCanceled))
  | _ => none

@[ext] structure Writes where
  state : ConnectionState
  stream : Option Stream
  slots : FixedRingBuffer WriteSlot writeSlotCountLog
  generation : Nat
  inProgress : Bool
  sendings : Nat → List Sending
  log : List WriteObs

/-- The part of a client that concerns its writes. -/
def Client.writes (c : Client H σ) : Writes where
  state := c.state
  stream := c.ws
  slots := c.writeSlots
  generation := c.writeGeneration
  inProgress := c.writeInProgress
  sendings g := c.ops.filterMap (Op.asSending g)
  log := c.trace.filterMap Obs.asWrite

namespace Writes

/-- The queued writes, oldest first. -/
def queue (w : Writes) : List WriteItem := w.slots.toList.map WriteSlot.item

/-- The outbox the client's writes implement. -/
def outbox (w : Writes) : Outbox WriteItem where
  isOpen := w.state = .connected
  generation := w.generation
  queue := w.queue
  busy := w.inProgress
  sends g := (w.sendings g).map Sending.item
  log := w.log.filterMap WriteObs.asRecord

def submissions (w : Writes) : List HandlerId := w.log.filterMap WriteObs.asSubmission

def answers (w : Writes) : List (HandlerId × Option ErrorCode) :=
  w.log.filterMap WriteObs.asAnswer

def fates (w : Writes) : List (HandlerId × Option ErrorCode) := w.log.filterMap WriteObs.asFate

/-- The handlers in the queued slots. -/
def queuedHandlers (w : Writes) : List HandlerId := w.queue.filterMap WriteItem.handler

/-- The outbox works, and the write in flight is that of the front slot of the
current stream. -/
structure Transport (w : Writes) : Prop where
  wellFormed : w.slots.WellFormed
  stream : w.state = .connected → w.stream ≠ none
  sound : w.outbox.Sound
  inPlace : ∀ s ∈ w.sendings w.generation, w.stream = some ⟨s.stream⟩ ∧
    s.slot = FixedRingBuffer.getIndex writeSlotCountLog w.slots.head

/-- Every handler that `do_write()` was given has been called with the fate of
its write, or is in a slot, or is `held` by the function that is running. -/
structure Ledger (held : Option HandlerId) (w : Writes) : Prop where
  fates : w.fates = w.answers
  handlers : w.submissions.Perm (w.answers.map Prod.fst ++ w.queuedHandlers ++ held.toList)

/-- Nothing is queued without a connection. -/
def Quiet (w : Writes) : Prop := w.state ≠ .connected → w.queue = []

/-- A queued write is on its way. -/
def Flowing (w : Writes) : Prop := w.state = .connected → w.queue ≠ [] → w.inProgress = true

/-! ## Slots and the queue -/

/-- Reading a list position by position gives the list back. -/
theorem filterMap_range_getElem? {α : Type} : ∀ l : List α,
    (List.range l.length).filterMap (fun i => l[i]?) = l
  | [] => rfl
  | a :: l => by
    rw [List.length_cons, List.range_succ_eq_map]
    show a :: ((List.range l.length).map Nat.succ).filterMap _ = a :: l
    rw [List.filterMap_map]
    exact congrArg (a :: ·) (filterMap_range_getElem? l)

/-- A message that fits a slot is read back from it. -/
theorem payload_fill (slot : WriteSlot) (item : WriteItem)
    (hlen : item.message.length ≤ writeSlotSize) : (slot.fill item).payload = item.message := by
  have hread : ∀ i ∈ List.range item.message.length,
      (if h : i < writeSlotSize then some ((slot.fill item).data ⟨i, h⟩) else none) =
        item.message[i]? := by
    intro i hi
    have hi' : i < item.message.length := List.mem_range.mp hi
    rw [dif_pos (by omega), List.getElem?_eq_getElem hi']
    simp [WriteSlot.fill, List.getElem?_eq_getElem hi']
  exact (List.filterMap_congr hread).trans (filterMap_range_getElem? item.message)

/-- A slot that was filled with a write holds it. -/
theorem item_fill (slot : WriteSlot) (item : WriteItem)
    (hlen : item.message.length ≤ writeSlotSize)
    (hping : item.type = .ping → item.message = []) : (slot.fill item).item = item := by
  cases item with
  | mk type message handler =>
    cases type with
    | message =>
      have hpayload := payload_fill slot ⟨.message, message, handler⟩ hlen
      exact congrArg (WriteItem.mk .message · handler) hpayload
    | ping =>
      obtain rfl : message = [] := hping rfl
      rfl

theorem queue_eq_nil_iff (w : Writes) : w.queue = [] ↔ w.slots.isEmpty = true := by
  rw [queue, List.map_eq_nil_iff, FixedRingBuffer.toList_eq_nil_iff]

theorem queue_ne_nil_iff (w : Writes) : w.queue ≠ [] ↔ w.slots.getSize ≠ 0 := by
  rw [ne_eq, queue_eq_nil_iff, FixedRingBuffer.isEmpty_iff]

theorem queue_eq_cons (w : Writes) (h : w.slots.getSize ≠ 0) :
    w.queue = w.slots.getFront.item :: w.slots.popFront.toList.map WriteSlot.item := by
  rw [queue, FixedRingBuffer.toList_eq_cons _ h, List.map_cons]

/-- Fill the back slot and push it. -/
def push (w : Writes) (item : WriteItem) : Writes :=
  { w with slots := (w.slots.setBackSlot (w.slots.getBackSlot.fill item)).pushBack }

/-- Clear the handler of the front slot and pop it. -/
def pop (w : Writes) : Writes :=
  { w with slots := (w.slots.setFront w.slots.getFront.clearHandler).popFront }

/-- The write of the front slot, on stream `ws`. -/
def sendFront (w : Writes) (ws : Stream) : Sending :=
  ⟨ws.id, FixedRingBuffer.getIndex writeSlotCountLog w.slots.head, w.slots.getFront.item⟩

/-- A slot stores the whole write: what is appended to the queue is what was pushed. -/
theorem queue_push (w : Writes) {item : WriteItem} (hsize : w.slots.getSize < 2 ^ writeSlotCountLog)
    (hlen : item.message.length ≤ writeSlotSize)
    (hping : item.type = .ping → item.message = []) : (w.push item).queue = w.queue ++ [item] := by
  have hlist := FixedRingBuffer.toList_pushBackValue (by decide) w.slots hsize
    (w.slots.getBackSlot.fill item)
  show List.map _ (w.slots.pushBackValue _).toList = _
  rw [hlist, List.map_append, List.map_singleton, item_fill _ _ hlen hping]
  rfl

/-- Releasing the front slot drops the first write. -/
theorem queue_pop (w : Writes) (hwf : w.slots.WellFormed) (h : w.slots.getSize ≠ 0) :
    w.pop.queue = w.queue.tail := by
  have hset := FixedRingBuffer.toList_setFront (by decide) w.slots h hwf
    w.slots.getFront.clearHandler
  show List.map _ (FixedRingBuffer.popFront _).toList = _
  rw [FixedRingBuffer.toList_popFront (w.slots.setFront w.slots.getFront.clearHandler) h, hset,
    List.tail_cons, queue, List.map_tail]

theorem queue_eq_cons_pop (w : Writes) (hwf : w.slots.WellFormed) (h : w.slots.getSize ≠ 0) :
    w.queue = w.slots.getFront.item :: w.pop.queue := by
  rw [queue_pop w hwf h, queue_eq_cons w h]
  rfl

/-- Releasing a slot makes room for one more. -/
theorem getSize_pop (w : Writes) (h : w.slots.getSize ≠ 0) :
    w.pop.slots.getSize + 1 = w.slots.getSize := by
  have := FixedRingBuffer.getSize_popFront (w.slots.setFront w.slots.getFront.clearHandler) h
  show (FixedRingBuffer.popFront _).getSize + 1 = w.slots.getSize
  rw [this, FixedRingBuffer.getSize_setFront]
  omega

theorem wellFormed_push (w : Writes) (item : WriteItem)
    (hsize : w.slots.getSize < 2 ^ writeSlotCountLog) : (w.push item).slots.WellFormed :=
  FixedRingBuffer.WellFormed.pushBackValue (by decide) hsize _

theorem wellFormed_pop (w : Writes) (hwf : w.slots.WellFormed) (h : w.slots.getSize ≠ 0) :
    w.pop.slots.WellFormed :=
  FixedRingBuffer.WellFormed.popFront (r := w.slots.setFront w.slots.getFront.clearHandler) hwf h

/-! ## The log -/

/-- Append to the log. -/
def record (w : Writes) (o : WriteObs) : Writes := { w with log := w.log ++ [o] }

/-- The outbox sees of the record what is about starting, accepting and finishing writes. -/
theorem outbox_record (w : Writes) (o : WriteObs) :
    (w.record o).outbox = { w.outbox with log := w.outbox.log ++ o.asRecord.toList } := by
  rw [outbox, record, Outbox.filterMap_snoc]
  rfl

theorem outbox_record_of_none (w : Writes) {o : WriteObs} (ho : o.asRecord = none) :
    (w.record o).outbox = w.outbox := by
  rw [outbox_record, ho, Option.toList_none, List.append_nil]

/-- Call a write handler, if there is one. -/
def answer (w : Writes) (handler : Option HandlerId) (ec : Option ErrorCode) : Writes :=
  match handler with
  | none => w
  | some h => w.record (.answered h ec)

/-- Release the front slot after the connection was lost. -/
def drainOne (w : Writes) : Writes :=
  (w.pop.record (.drained w.slots.getFront.item)).answer w.slots.getFront.handler
    (some (.errc .operationCanceled))

/-- Release the front slot when its write, of `item`, completes with `ec` and
the writes `sendings` are left. -/
def finish (w : Writes) (sendings : Nat → List Sending) (item : WriteItem)
    (ec : Option AsioError) : Writes :=
  (record { w.pop with inProgress := false, sendings := sendings } (.completed item ec)).answer
    w.slots.getFront.handler (AsioError.toErrorCode ec)

theorem slots_answer (w : Writes) (handler : Option HandlerId) (ec : Option ErrorCode) :
    (w.answer handler ec).slots = w.slots := by
  cases handler <;> rfl

theorem slots_drainOne (w : Writes) : w.drainOne.slots = w.pop.slots := slots_answer _ _ _

/-- Start the write of the front slot on stream `ws`. -/
def start (w : Writes) (ws : Stream) : Writes :=
  record { w with
    inProgress := true
    sendings := fun g =>
      if g = w.generation then w.sendings g ++ [w.sendFront ws] else w.sendings g }
    (.started w.generation w.slots.getFront.item)

@[simp] theorem submissions_record (w : Writes) (o : WriteObs) :
    (w.record o).submissions = w.submissions ++ o.asSubmission.toList :=
  Outbox.filterMap_snoc _ w.log o

@[simp] theorem answers_record (w : Writes) (o : WriteObs) :
    (w.record o).answers = w.answers ++ o.asAnswer.toList :=
  Outbox.filterMap_snoc _ w.log o

@[simp] theorem fates_record (w : Writes) (o : WriteObs) :
    (w.record o).fates = w.fates ++ o.asFate.toList :=
  Outbox.filterMap_snoc _ w.log o

@[simp] theorem queue_record (w : Writes) (o : WriteObs) : (w.record o).queue = w.queue := rfl

/-! ## The ledger -/

namespace Ledger

variable {w : Writes}

/-- A submission is open until the write is stored or refused. -/
theorem submit (h : w.Ledger none) (handler : Option HandlerId) :
    (w.record (.submitted handler)).Ledger handler where
  fates := by simpa [WriteObs.asFate, WriteObs.asAnswer] using h.fates
  handlers := by
    have := h.handlers.append_right handler.toList
    simpa [WriteObs.asSubmission, WriteObs.asAnswer, queuedHandlers] using this

/-- What is neither a submission nor a fate nor an answer does not count. -/
theorem record {held : Option HandlerId} (h : w.Ledger held) {o : WriteObs}
    (hsub : o.asSubmission = none) (hfate : o.asFate = none) (hans : o.asAnswer = none) :
    (w.record o).Ledger held where
  fates := by simpa [hfate, hans] using h.fates
  handlers := by simpa [hsub, hans, queuedHandlers] using h.handlers

/-- The held handler is called with the fate of its write. -/
theorem answer {handler : Option HandlerId} (h : w.Ledger handler) {o : WriteObs}
    {ec : Option ErrorCode} (hsub : o.asSubmission = none) (hans : o.asAnswer = none)
    (hfate : o.asFate = handler.map fun handler => (handler, ec)) :
    ((w.record o).answer handler ec).Ledger none := by
  have hhandlers := h.handlers
  cases handler with
  | none =>
    exact {
      fates := by simpa [Writes.answer, hfate, hans] using h.fates
      handlers := by simpa [Writes.answer, hsub, hans, queuedHandlers] using hhandlers }
  | some handler =>
    have hsub' : (WriteObs.answered handler ec).asSubmission = none := rfl
    have hfate' : (WriteObs.answered handler ec).asFate = none := rfl
    have hans' : (WriteObs.answered handler ec).asAnswer = some (handler, ec) := rfl
    exact {
      fates := by simp [Writes.answer, hfate, hans, h.fates, hfate', hans']
      handlers := by
        rw [List.perm_iff_count] at hhandlers ⊢
        intro x
        have := hhandlers x
        simp [Writes.answer, hsub, hans, hsub', hans', queuedHandlers, List.count_cons] at this ⊢
        omega }

/-- A write that is accepted takes its handler into its slot. -/
theorem push {item : WriteItem} {w' : Writes} (h : w.Ledger item.handler)
    (hqueue : w'.queue = w.queue ++ [item]) (hlog : w'.log = w.log) : w'.Ledger none where
  fates := by
    rw [Writes.fates, Writes.answers, hlog]
    exact h.fates
  handlers := by
    have hhandlers : w'.queuedHandlers = w.queuedHandlers ++ item.handler.toList := by
      rw [queuedHandlers, hqueue, Outbox.filterMap_snoc]
      rfl
    rw [hhandlers, Option.toList_none, List.append_nil, submissions, answers, hlog,
      ← List.append_assoc]
    exact h.handlers

/-- Popping the front slot takes its handler out of it. -/
theorem pop (h : w.Ledger none) {item : WriteItem} {w' : Writes}
    (hqueue : w.queue = item :: w'.queue) (hlog : w'.log = w.log) : w'.Ledger item.handler where
  fates := by
    rw [Writes.fates, Writes.answers, hlog]
    exact h.fates
  handlers := by
    have hhandlers := h.handlers
    rw [List.perm_iff_count] at hhandlers ⊢
    intro x
    have := hhandlers x
    cases hh : item.handler <;>
      simp [queuedHandlers, hqueue, hh, List.count_cons, submissions, answers, hlog] at this ⊢ <;>
      omega

/-- The drained front goes from the queued handlers to the answered ones, so the ledger
still balances. -/
theorem drainOne (h : w.Ledger none) (hwf : w.slots.WellFormed) (hsize : w.slots.getSize ≠ 0) :
    w.drainOne.Ledger none := by
  have hpop : w.pop.Ledger w.slots.getFront.handler := h.pop (queue_eq_cons_pop w hwf hsize) rfl
  exact hpop.answer (o := .drained w.slots.getFront.item) rfl rfl rfl

/-- The finished front goes from the queued handlers to the answered ones; what is still
being sent does not enter the ledger. -/
theorem finish (h : w.Ledger none) (hwf : w.slots.WellFormed) (hsize : w.slots.getSize ≠ 0)
    (sendings : Nat → List Sending) (ec : Option AsioError) :
    (w.finish sendings w.slots.getFront.item ec).Ledger none := by
  have hpop : w.pop.Ledger w.slots.getFront.handler := h.pop (queue_eq_cons_pop w hwf hsize) rfl
  have hpop : ({ w.pop with inProgress := false, sendings := sendings } : Writes).Ledger
      w.slots.getFront.handler := ⟨hpop.1, hpop.2⟩
  exact hpop.answer (o := .completed w.slots.getFront.item ec) rfl rfl rfl

end Ledger

/-! ## The transport -/

namespace Transport

variable {w : Writes}

/-- What the outbox does not record does not concern it. -/
theorem record (h : w.Transport) {o : WriteObs} (ho : o.asRecord = none) :
    (w.record o).Transport where
  wellFormed := h.wellFormed
  stream := h.stream
  sound := by
    rw [outbox_record_of_none w ho]
    exact h.sound
  inPlace := h.inPlace

theorem answer (h : w.Transport) (handler : Option HandlerId) (ec : Option ErrorCode) :
    (w.answer handler ec).Transport := by
  cases handler with
  | none => exact h
  | some handler => exact h.record rfl

/-- An accepted write joins the queue at its end and the record of this connection. -/
theorem accept (h : w.Transport) {item : WriteItem} (hconn : w.state = .connected)
    (hsize : w.slots.getSize < 2 ^ writeSlotCountLog)
    (hlen : item.message.length ≤ writeSlotSize)
    (hping : item.type = .ping → item.message = []) :
    ((w.push item).record (.accepted w.generation item)).Transport where
  wellFormed := wellFormed_push w item hsize
  stream := h.stream
  sound := by
    have houtbox : ((w.push item).record (.accepted w.generation item)).outbox =
        w.outbox.accept item := by
      rw [outbox_record, outbox, queue_push w hsize hlen hping]
      rfl
    rw [houtbox]
    exact h.sound.accept (decide_eq_true hconn) item
  inPlace := h.inPlace

/-- The write of the front slot is started on the current stream. -/
theorem start (h : w.Transport) (hconn : w.state = .connected) (hidle : w.inProgress = false)
    (hsize : w.slots.getSize ≠ 0) {ws : Stream} (hws : w.stream = some ws) :
    (w.start ws).Transport where
  wellFormed := h.wellFormed
  stream := h.stream
  sound := by
    have houtbox : (w.start ws).outbox = w.outbox.start := by
      have hsends : (fun g => ((w.start ws).sendings g).map Sending.item) = fun g =>
          if g = w.generation then w.outbox.sends g ++ [w.slots.getFront.item]
          else w.outbox.sends g := by
        funext g
        by_cases hg : g = w.generation
        · simp [Writes.start, Writes.record, outbox, hg, sendFront]
        · simp [Writes.start, Writes.record, outbox, hg]
      rw [Outbox.start_eq (queue_eq_cons w hsize) hidle, Writes.start, outbox_record]
      exact congrArg (fun sends => ({ w.outbox with
        busy := true
        sends := sends
        log := w.outbox.log ++ [.started w.generation w.slots.getFront.item] } :
          Outbox WriteItem)) hsends
    rw [houtbox]
    exact h.sound.start (decide_eq_true hconn)
  inPlace := by
    have hnone : w.sendings w.generation = [] := List.map_eq_nil_iff.mp (h.sound.sends_eq_nil hidle)
    intro s hs
    obtain rfl : s = w.sendFront ws := by simpa [Writes.start, Writes.record, hnone] using hs
    exact ⟨hws, rfl⟩

/-- Without a connection no write of the current generation is outstanding. -/
theorem sendings_eq_nil (h : w.Transport) (hstate : w.state ≠ .connected) :
    w.sendings w.generation = [] :=
  List.map_eq_nil_iff.mp (h.sound.sends_eq_nil (h.sound.not_busy (decide_eq_false hstate)))

/-- The front slot is released. No write of the current generation is
outstanding then. -/
theorem released (h : w.Transport) (hsize : w.slots.getSize ≠ 0) {w' : Writes}
    (hslots : w'.slots = w.pop.slots) (hstream : w'.stream = w.stream) (hstate : w'.state = w.state)
    (hnone : w'.sendings w'.generation = []) (hsound : w'.outbox.Sound) : w'.Transport where
  wellFormed := by
    rw [hslots]
    exact wellFormed_pop w h.wellFormed hsize
  stream := by
    rw [hstream, hstate]
    exact h.stream
  sound := hsound
  inPlace := by
    rw [hnone]
    exact fun s hs => absurd hs List.not_mem_nil

/-- Draining is for writes whose connection is gone: nothing is sent for them any more. -/
theorem drainOne (h : w.Transport) (hstate : w.state ≠ .connected)
    (hsize : w.slots.getSize ≠ 0) : w.drainOne.Transport := by
  have hqueue := queue_eq_cons_pop w h.wellFormed hsize
  have hidle : w.pop.inProgress = false := h.sound.not_busy (decide_eq_false hstate)
  have houtbox : (w.pop.record (.drained w.slots.getFront.item)).outbox =
      w.outbox.release w.slots.getFront.item := by
    rw [outbox_record]
    simp only [Outbox.release, outbox, hqueue, hidle, List.tail_cons]
    rfl
  have hrecord : (w.pop.record (.drained w.slots.getFront.item)).Transport := by
    refine h.released hsize rfl rfl rfl (h.sendings_eq_nil hstate) ?_
    rw [houtbox]
    exact h.sound.drop (decide_eq_false hstate) hqueue
  exact hrecord.answer _ _

/-- An outstanding write of the current generation sends the front slot. -/
theorem front_of_mem (h : w.Transport) {s : Sending} (hs : s ∈ w.sendings w.generation) :
    w.sendings w.generation = [s] ∧ w.slots.getSize ≠ 0 ∧ w.slots.getFront.item = s.item := by
  obtain ⟨-, hsends, rest, hqueue⟩ := h.sound.eq_cons_of_mem (List.mem_map_of_mem hs)
  have hone : (w.sendings w.generation).length = 1 := by
    simpa [outbox] using congrArg List.length hsends
  obtain ⟨t, ht⟩ := List.length_eq_one_iff.mp hone
  have hsize : w.slots.getSize ≠ 0 := (queue_ne_nil_iff w).mp fun hnil => by
    change w.queue = _ at hqueue
    simp [hnil] at hqueue
  refine ⟨?_, hsize, ?_⟩
  · rw [ht] at hs ⊢
    rw [List.mem_singleton.mp hs]
  · change w.queue = _ at hqueue
    rw [queue_eq_cons w hsize] at hqueue
    exact (List.cons.inj hqueue).1

/-- The write in flight completes. -/
theorem finish (h : w.Transport) {s : Sending} (hs : s ∈ w.sendings w.generation)
    {sendings : Nat → List Sending} (hnone : sendings w.generation = [])
    (hother : ∀ g, g ≠ w.generation → sendings g = w.sendings g) (ec : Option AsioError) :
    (w.finish sendings s.item ec).Transport := by
  obtain ⟨hsends, hsize, hitem⟩ := h.front_of_mem hs
  have hqueue := queue_eq_cons_pop w h.wellFormed hsize
  have houtbox : (Writes.record { w.pop with inProgress := false, sendings := sendings }
      (.completed s.item ec)).outbox =
        (w.outbox.withSends fun g => (sendings g).map Sending.item).release s.item := by
    rw [outbox_record]
    simp only [Outbox.release, Outbox.withSends, outbox, hqueue, List.tail_cons]
    rfl
  have hrecord : (Writes.record { w.pop with inProgress := false, sendings := sendings }
      (.completed s.item ec)).Transport := by
    refine h.released hsize rfl rfl rfl hnone ?_
    rw [houtbox]
    refine h.sound.finish (List.mem_map_of_mem hs) ?_ fun g hg => ?_
    · show (sendings w.generation).map Sending.item = []
      rw [hnone]
      rfl
    · have hlt : w.generation < g := hg
      show (sendings g).map Sending.item = []
      rw [hother g (by omega)]
      exact h.sound.future g hg
  exact hrecord.answer _ _

/-- Without a connection the state and the stream may change. -/
theorem setState (h : w.Transport) (hstate : w.state ≠ .connected) {state : ConnectionState}
    (hstate' : state ≠ .connected) (stream : Option Stream) :
    ({ w with state := state, stream := stream } : Writes).Transport where
  wellFormed := h.wellFormed
  stream := fun hconn => absurd hconn hstate'
  sound := by
    have houtbox : ({ w with state := state, stream := stream } : Writes).outbox = w.outbox := by
      simp [outbox, queue, hstate, hstate']
    rw [houtbox]
    exact h.sound
  inPlace := by
    show ∀ s ∈ w.sendings w.generation, _
    rw [h.sendings_eq_nil hstate]
    exact fun s hs => absurd hs List.not_mem_nil

/-- The connection is lost: what is queued belongs to no connection. -/
theorem disconnect (h : w.Transport) {state : ConnectionState} (hstate : state ≠ .connected) :
    ({ w with state := state, generation := w.generation + 1, inProgress := false } :
      Writes).Transport where
  wellFormed := h.wellFormed
  stream := fun hconn => absurd hconn hstate
  sound := by
    have houtbox : ({ w with state := state, generation := w.generation + 1, inProgress := false } :
        Writes).outbox = w.outbox.disconnect := by
      simp [outbox, queue, Outbox.disconnect, hstate]
    rw [houtbox]
    exact h.sound.disconnect
  inPlace := by
    have hnone : w.sendings (w.generation + 1) = [] :=
      List.map_eq_nil_iff.mp (h.sound.future _ (Nat.lt_succ_self _))
    show ∀ s ∈ w.sendings (w.generation + 1), _
    rw [hnone]
    exact fun s hs => absurd hs List.not_mem_nil

/-- A connection is established with nothing queued. -/
theorem connect (h : w.Transport) (hstate : w.state ≠ .connected) (hq : w.queue = [])
    (hws : w.stream ≠ none) :
    (Writes.record { w with state := .connected } (.opened w.generation)).Transport where
  wellFormed := h.wellFormed
  stream := fun _ => hws
  sound := by
    have houtbox : (Writes.record { w with state := .connected }
        (.opened w.generation)).outbox = w.outbox.connect := by
      rw [outbox_record]
      simp [outbox, queue, Outbox.connect, WriteObs.asRecord]
    rw [houtbox]
    exact h.sound.connect (decide_eq_false hstate) hq
  inPlace := by
    show ∀ s ∈ w.sendings w.generation, _
    rw [h.sendings_eq_nil hstate]
    exact fun s hs => absurd hs List.not_mem_nil

/-- A write of an earlier connection completes. -/
theorem withSendings (h : w.Transport) {sendings : Nat → List Sending}
    (heq : ∀ g, w.generation ≤ g → sendings g = w.sendings g) :
    ({ w with sendings := sendings } : Writes).Transport where
  wellFormed := h.wellFormed
  stream := h.stream
  sound := by
    have hsends : ∀ g, w.generation ≤ g →
        (sendings g).map Sending.item = w.outbox.sends g := fun g hg => by
      rw [heq g hg]
      rfl
    exact h.sound.withSends hsends
  inPlace := by
    show ∀ s ∈ sendings w.generation, _
    rw [heq _ (Nat.le_refl _)]
    exact h.inPlace

end Transport

end Writes

end CppComponents.SecureWebSocketClient
