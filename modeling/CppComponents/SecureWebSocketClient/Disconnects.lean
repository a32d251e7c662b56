import CppComponents.SecureWebSocketClient.Connecting
import CppComponents.SecureWebSocketClient.WriteQueue

/-!
# One notification for each connection that is lost

A connection is ended by `close()`, or by the first failure that reaches the
client while it is up: of a read, of a write or ping, or the read timeout. All
failures go through `handle_unexpected_disconnect()`, and the teardown makes
more of them: the operations it cancels complete with an error later. Those
find the state no longer `connected`, and that is the whole reason why
`on_unexpected_disconnect()` is not called again.

A write carries the generation of its connection, and `handle_write()` drops it when
that is over. A read carries nothing. So a read that was cancelled with its connection,
and completes only when the next one is up, is taken for a read of that, and ends it
(`step_of_lateRead`). In runs without such a read (`currentReads`) each connection has one
notification at most, and has the right one.

`OneNotification` says what is called over the whole life of a connection. It is
stated for any system of clients, given what accepts and what ends a connection
there (`accepts`, `ending`), since `ReconnectingSecureWebSocketClient` is another
such system; `oneNotification` derives it from what single steps do.
-/

namespace CppComponents.SecureWebSocketClient

open CppComponents.Transition

variable {H σ : Type}

def Obs.asDisconnect : Obs H → Option ErrorCode
  | .disconnect ec => some ec
  | _ => none

/-- What can end a connection. -/
inductive Ending where
  | closed
  | readError (ec : AsioError)
  | writeError (ec : AsioError)
  | readTimeout
  deriving DecidableEq, Repr

/-- The error the end of a connection is reported with, if it is reported. -/
def Ending.error : Ending → Option ErrorCode
  | .closed => none
  | .readError ec => some (.asio ec)
  | .writeError ec => some (.asio ec)
  | .readTimeout => some (.errc .timedOut)

namespace Client

/-- The errors `on_unexpected_disconnect()` was called with. -/
def disconnects (c : Client H σ) : List ErrorCode := c.trace.filterMap Obs.asDisconnect

/-! ## What does not notify -/

theorem disconnects_log (c : Client H σ) {o : Obs H} (ho : o.asDisconnect = none) :
    (c.log o).disconnects = c.disconnects := by
  simp [disconnects, log, ho]

theorem disconnects_log_disconnect (c : Client H σ) (ec : ErrorCode) :
    (c.log (.disconnect ec)).disconnects = c.disconnects ++ [ec] := by
  simp [disconnects, log, Obs.asDisconnect]

/-- Writing, connecting and the handlers notify nobody. -/
theorem disconnectsFrame : TransportFrame (disconnects : Client H σ → List ErrorCode) where
  fields := fun _ _ _ _ _ => rfl
  start := fun _ _ _ => rfl
  remove := fun _ _ _ => rfl
  log := fun c o ho => by
    have hnone : o.asDisconnect = none := by
      cases o with
      | disconnect ec => cases ho
      | _ => rfl
    exact disconnects_log c hnone

variable (cb : Callbacks H σ) (c : Client H σ)

theorem disconnects_startPingTimer (delay : Int) :
    (c.startPingTimer delay).disconnects = c.disconnects := by
  unfold startPingTimer
  split <;> rfl

theorem disconnects_startReadTimer : c.startReadTimer.disconnects = c.disconnects := by
  unfold startReadTimer
  split <;> rfl

/-- A read notifies nobody when it is started. -/
theorem disconnects_startRead : c.startRead.disconnects = c.disconnects := by
  unfold startRead
  split
  · rfl
  · split <;> rfl

/-- The message handler is no `disconnect_handler`. -/
theorem disconnects_callMessageHandler :
    (c.callMessageHandler cb).disconnects = c.disconnects := by
  unfold callMessageHandler
  cases c.messageHandler with
  | none => rfl
  | some h => exact (disconnectsFrame.runCallback _ _).trans (disconnects_log c rfl)

/-- The ping timer never ends a connection. -/
theorem disconnects_handlePingTimer (status : WaitStatus) :
    (c.handlePingTimer cb status).disconnects = c.disconnects := by
  unfold handlePingTimer
  split
  · rfl
  · refine (disconnects_startPingTimer _ _).trans ?_
    cases c.pingMessageGenerator with
    | none => exact disconnectsFrame.queueWrite c _
    | some h => exact disconnectsFrame.ping cb c _ _

/-- `do_close()` by itself notifies nobody. -/
theorem disconnects_doClose (handler : Option HandlerId) :
    (c.doClose cb handler).disconnects = c.disconnects := by
  unfold doClose
  split
  · exact (disconnectsFrame.callCloseHandler cb _ handler).trans
      ((disconnectsFrame.writing cb).failPendingWrites _)
  · exact disconnectsFrame.callCloseHandler cb c handler

/-- Nor does `close()`, in whatever state it is called. -/
theorem disconnects_close (handler : Option HandlerId) :
    (c.close cb handler).disconnects = c.disconnects := by
  unfold close
  split
  · exact (disconnects_doClose cb _ handler).trans (disconnects_log c rfl)
  · exact disconnects_doClose cb c handler

/-- An attempt notifies its connect handler only. -/
theorem disconnects_doConnect (handler : Option H) :
    (c.doConnect cb handler).disconnects = c.disconnects := by
  by_cases hstate : c.state = .disconnected
  · unfold doConnect
    rw [if_neg (not_not_intro hstate)]
    exact (disconnects_log _ rfl).trans (disconnects_log _ rfl)
  · exact disconnectsFrame.rejectConnect cb hstate handler

theorem disconnects_setPingInterval (interval : Int) :
    (c.setPingInterval interval).disconnects = c.disconnects := by
  simp only [setPingInterval]
  split
  · rfl
  · exact disconnects_startPingTimer _ _

theorem disconnects_setReadTimeout (timeout : Int) :
    (c.setReadTimeout timeout).disconnects = c.disconnects := by
  simp only [setReadTimeout]
  split
  · rfl
  · exact disconnects_startReadTimer _

/-- The operations of a connect attempt do not notify, whatever they complete
with. -/
theorem disconnects_complete_connect (stream : Nat) (phase : Phase) (n : Nat)
    (handler : Option H) (r : Completion) :
    (c.complete cb (.connect stream phase n handler) r).disconnects = c.disconnects := by
  cases disconnectsFrame.complete_connect cb c stream phase n handler r with
  | same hsame => exact hsame
  | failed c₁ _ hview _ hclosed =>
    exact hclosed.trans ((disconnects_doClose cb c₁ none).trans hview)
  | established c₁ _ _ hview hafter =>
    refine hafter.trans ((disconnects_startPingTimer _ _).trans ((disconnects_startRead _).trans
      ((disconnects_startReadTimer _).trans ?_)))
    exact hview

/-! ## What ends a connection -/

/-- What event `e` ends a connection with, if it happens while the connection is
up. A read or a write that was started for an earlier connection is none of its own. -/
def ending (c : Client H σ) : Event H → Option Ending
  | .close _ => some .closed
  | .complete (.read stream) r => if c.ws = some ⟨stream⟩ then r.ec.map .readError else none
  | .complete (.send _ generation _ _) r =>
    if generation = c.writeGeneration then r.ec.map .writeError else none
  | .readTimer w =>
    if w.status = .fired ∧ 0 < c.readTimeout ∧
        c.lastReadTime + seconds c.readTimeout ≤ c.now then some .readTimeout
    else none
  | _ => none

/-- Only `close()` is the user's own ending. -/
theorem close_of_ending_closed {c : Client H σ} {e : Event H} (h : c.ending e = some .closed) :
    ∃ handler, e = .close handler := by
  unfold ending at h
  split at h
  · exact ⟨_, rfl⟩
  · split at h
    · obtain ⟨ec, -, hclosed⟩ := Option.map_eq_some_iff.mp h
      cases hclosed
    · cases h
  · split at h
    · obtain ⟨ec, -, hclosed⟩ := Option.map_eq_some_iff.mp h
      cases hclosed
    · cases h
  · split at h <;> cases h
  · cases h

/-- No read of an earlier stream fails while the connection is up. -/
def currentReads : Guard (Client H σ) (Event H)
  | c, .complete (.read stream) r => c.state = .connected → r.ec ≠ none → c.ws = some ⟨stream⟩
  | _, _ => True

instance (c : Client H σ) (e : Event H) : Decidable (currentReads c e) :=
  match e with
  | .complete (.read stream) r =>
    inferInstanceAs (Decidable (c.state = .connected → r.ec ≠ none → c.ws = some ⟨stream⟩))
  | .complete (.connect _ _ _ _) _ | .complete (.send _ _ _ _) _ | .assign _ | .connect _
  | .close _ | .write _ _ | .writeNow _ _ | .setMessageHandler _ | .setDisconnectHandler _
  | .setPingMessageGenerator _ | .setPingInterval _ | .setReadTimeout _ | .firePingTimer _
  | .fireReadTimer _ | .pingTimer _ | .readTimer _ | .advance _ => isTrue trivial

/-- The event is a `connect()` that `do_connect()` accepts. -/
def accepts (c : Client H σ) : Event H → Prop
  | .connect _ => c.state = .disconnected
  | _ => False

instance (c : Client H σ) (e : Event H) : Decidable (c.accepts e) :=
  match e with
  | .connect _ => inferInstanceAs (Decidable (c.state = .disconnected))
  | .assign _ | .close _ | .write _ _ | .writeNow _ _ | .setMessageHandler _
  | .setDisconnectHandler _ | .setPingMessageGenerator _ | .setPingInterval _
  | .setReadTimeout _ | .complete _ _ | .firePingTimer _ | .fireReadTimer _ | .pingTimer _
  | .readTimer _ | .advance _ => isFalse id

/-- A client that is as `on_unexpected_disconnect()` has to find it. -/
structure TornDown (c : Client H σ) : Prop where
  notConnected : c.isConnected = false
  drained : c.writeSlots.isEmpty = true
  /-- every write handler `do_write()` was given has been called -/
  answered : c.writes.submissions.Perm (c.writes.answers.map Prod.fst)

/-- Client `c` was connected, and `x` has made it `c'`. -/
structure EndedBy (x : Ending) (c c' : Client H σ) : Prop where
  state : c'.state = .disconnected
  closed : x.error = none → c'.disconnects = c.disconnects
  /-- the last thing that happens is the one call -/
  lost : ∀ ec, x.error = some ec → ∃ c₁ : Client H σ, c₁.TornDown ∧
    c₁.disconnects = c.disconnects ∧ c' = c₁.onUnexpectedDisconnect cb ec

variable {cb} {c} {c' : Client H σ}

/-- What an ending notifies is its error, and nothing if it is the user's. -/
theorem EndedBy.disconnects {x : Ending} (h : EndedBy cb x c c') :
    c'.disconnects = c.disconnects ++ x.error.toList := by
  cases hx : x.error with
  | none => exact (h.closed hx).trans (List.append_nil _).symm
  | some ec =>
    obtain ⟨c₁, -, hsame, rfl⟩ := h.lost ec hx
    refine (disconnectsFrame.runCallback _ _).trans ((disconnects_log_disconnect c₁ ec).trans ?_)
    rw [hsame]
    rfl

theorem state_doClose (hconn : c.state = .connected) (handler : Option HandlerId) :
    (c.doClose cb handler).state = .disconnected := by
  rw [(stateFrame cb).doClose, if_pos (.inl hconn)]
  rfl

/-- `do_close()` leaves neither writes nor timers behind. -/
theorem tornDown_doClose (h : c.WriteInv) (hconn : c.state = .connected) :
    (c.doClose cb none).TornDown := by
  obtain ⟨hset, hstate⟩ := doClose_spec cb h (fun hne => absurd hconn hne) none
  have hnil : (c.doClose cb none).writes.queue = [] := hset.quiet hstate
  have hhandlers := hset.ledger.handlers
  constructor
  · simpa [isConnected] using hstate
  · exact (Writes.queue_eq_nil_iff _).mp hnil
  · simpa [Writes.queuedHandlers, hnil] using hhandlers

/-- The user's ending is `do_close()`, and its handler is called last. -/
theorem endedBy_close (hconn : c.state = .connected) (handler : Option HandlerId) :
    EndedBy cb .closed c (c.close cb handler) := by
  have hclose : c.close cb handler = c.doClose cb handler := by
    unfold close
    rw [if_neg (by simp [hconn])]
  constructor
  · rw [hclose]
    exact state_doClose hconn handler
  · intro _
    exact disconnects_close cb c handler
  · rintro ec ⟨⟩

/-- A failure is reported by a client `c₀` that is still connected and has not
notified anybody. -/
theorem endedBy_lost {c₀ : Client H σ} (h : c₀.WriteInv) (hconn : c₀.state = .connected)
    (hsame : c₀.disconnects = c.disconnects) {x : Ending} {ec : ErrorCode}
    (hx : x.error = some ec) (hlost : c' = c₀.handleUnexpectedDisconnect cb ec) :
    EndedBy cb x c c' := by
  have hcall : c' = (c₀.doClose cb none).onUnexpectedDisconnect cb ec := by
    rw [hlost, handleUnexpectedDisconnect, if_neg (not_not_intro hconn)]
  constructor
  · rw [hcall]
    exact ((stateFrame cb).runCallback _ _).trans (state_doClose hconn none)
  · intro hnone
    rw [hx] at hnone
    cases hnone
  · intro ec' hec'
    obtain rfl : ec = ec' := Option.some.inj (hx.symm.trans hec')
    exact ⟨_, tornDown_doClose h hconn, (disconnects_doClose cb c₀ none).trans hsame, hcall⟩

/-! ## What a step does -/

/-- A `connect()` that is rejected leaves the state alone. -/
theorem state_doConnect_of_busy (hbusy : c.state ≠ .disconnected) (handler : Option H) :
    (c.doConnect cb handler).state = c.state := by
  unfold doConnect
  rw [if_pos hbusy]
  cases handler with
  | none => rfl
  | some h => exact (stateFrame cb).rejectConnect c h

/-- A read without an error leaves the connection up. -/
theorem handleRead_success (hconn : c.state = .connected) {r : Completion} (hec : r.ec = none) :
    (c.handleRead cb r).state = .connected ∧
      (c.handleRead cb r).disconnects = c.disconnects := by
  unfold handleRead
  rw [if_neg (by simp [isConnected, hconn]), hec]
  constructor
  · rw [(stateFrame cb).startRead]
    exact ((stateFrame cb).callMessageHandler _).trans hconn
  · exact (disconnects_startRead _).trans (disconnects_callMessageHandler cb _)

theorem handleRead_failure (hconn : c.state = .connected) {r : Completion} {e : AsioError}
    (hec : r.ec = some e) : c.handleRead cb r = c.handleUnexpectedDisconnect cb (.asio e) := by
  unfold handleRead
  rw [if_neg (by simp [isConnected, hconn]), hec]

/-- While the connection is up, an event that does not end it leaves it up and
notifies nobody. -/
theorem step_of_up [DecidableEq H] {e : Event H} (hok : currentReads c e)
    (hconn : c.state = .connected) (hnone : c.ending e = none) (hstep : c.step cb e = some c') :
    c'.state = .connected ∧ c'.disconnects = c.disconnects := by
  cases e with
  | assign a =>
    cases hstep
    cases a <;> exact ⟨hconn, rfl⟩
  | connect handler =>
    cases hstep
    have hbusy : c.state ≠ .disconnected := by simp [hconn]
    exact ⟨(state_doConnect_of_busy hbusy handler).trans hconn, disconnects_doConnect cb c handler⟩
  | close handler => cases hnone
  | write message handler =>
    cases hstep
    exact ⟨((stateFrame cb).doWrite c message handler).trans hconn,
      disconnectsFrame.doWrite cb c message handler⟩
  | writeNow inThread message =>
    cases hstep
    exact ⟨((stateFrame cb).writeNow c inThread message).trans hconn,
      disconnectsFrame.writeNow c inThread message⟩
  | setPingInterval interval =>
    cases hstep
    exact ⟨((stateFrame cb).setPingInterval c interval).trans hconn,
      disconnects_setPingInterval c interval⟩
  | setReadTimeout timeout =>
    cases hstep
    exact ⟨((stateFrame cb).setReadTimeout c timeout).trans hconn,
      disconnects_setReadTimeout c timeout⟩
  | complete op r =>
    simp only [step] at hstep
    split at hstep
    · cases hstep
      cases op with
      | connect stream phase n handler =>
        have hup : (c.removeOp (.connect stream phase n handler)).state = .connected := hconn
        rw [complete_connect_of_ne cb (by simp [hup])]
        exact ⟨hconn, rfl⟩
      | read stream =>
        have hec : r.ec = none := by
          by_contra hec
          have hending : c.ending (.complete (.read stream) r) = r.ec.map .readError :=
            if_pos (hok hconn hec)
          exact hec (Option.map_eq_none_iff.mp (hending.symm.trans hnone))
        exact handleRead_success (c := { c.removeOp (.read stream) with
          readBuffer := c.readBuffer.append r.received }) hconn hec
      | send stream generation slot item =>
        by_cases hstale : generation ≠ c.writeGeneration
        · rw [complete_stale (c := c.removeOp _) cb r hstale]
          exact ⟨hconn, rfl⟩
        · obtain rfl : generation = c.writeGeneration := Decidable.not_not.mp hstale
          have hec : r.ec = none := by simpa [ending] using hnone
          rw [complete_popFinished cb hconn, hec]
          constructor
          · rw [continueWriting, (stateFrame cb).startWrite]
            exact ((stateFrame cb).callWriteHandler _ _ _).trans hconn
          · refine ((disconnectsFrame.writing cb).startWrite _).trans ?_
            exact ((disconnectsFrame.writing cb).callWriteHandler _ _ _).trans
              (disconnects_log _ rfl)
    · cases hstep
  | firePingTimer w | fireReadTimer w =>
    obtain ⟨t, -, rfl⟩ := Option.map_eq_some_iff.mp hstep
    exact ⟨hconn, rfl⟩
  | pingTimer w =>
    obtain ⟨t, -, rfl⟩ := Option.map_eq_some_iff.mp hstep
    exact ⟨((stateFrame cb).handlePingTimer _ w.status).trans hconn,
      disconnects_handlePingTimer cb _ w.status⟩
  | readTimer w =>
    obtain ⟨t, ht, rfl⟩ := Option.map_eq_some_iff.mp hstep
    unfold handleReadTimeout
    split
    · exact ⟨hconn, rfl⟩
    · rename_i hfired
      split
      · exact ⟨((stateFrame cb).startReadTimer _).trans hconn, disconnects_startReadTimer _⟩
      · rename_i hexpired
        -- then the event ends the connection
        obtain ⟨-, harmed, -⟩ := SteadyTimer.deliver_eq_some ht
        obtain ⟨haborted, -, htimeout⟩ := by simpa only [not_or] using hfired
        have hstatus : w.status = .fired := by
          cases hs : w.status with
          | armed => exact absurd hs harmed
          | fired => rfl
          | aborted => exact absurd hs haborted
        have htimeout : ¬ c.readTimeout ≤ 0 := htimeout
        have hexpired : ¬ c.now < c.lastReadTime + seconds c.readTimeout := hexpired
        have hended : c.ending (.readTimer w) = some .readTimeout :=
          if_pos ⟨hstatus, by omega, by omega⟩
        rw [hended] at hnone
        cases hnone
  | _ => cases hstep; exact ⟨hconn, rfl⟩

/-- A read that fails while the connection is up ends it, of whatever stream it is. -/
theorem endedBy_failedRead [DecidableEq H] (h : c.Settled) (hconn : c.state = .connected)
    {stream : Nat} {r : Completion} {ec : AsioError} (hec : r.ec = some ec)
    (hstep : c.step cb (.complete (.read stream) r) = some c') :
    EndedBy cb (.readError ec) c c' := by
  simp only [step] at hstep
  split at hstep
  · cases hstep
    let received : Client H σ :=
      { c.removeOp (.read stream) with readBuffer := c.readBuffer.append r.received }
    have hread : received.Settled := settled_of_writes h (writes_eraseOp c fun _ => rfl)
    have hfail : received.handleRead cb r = received.handleUnexpectedDisconnect cb (.asio ec) :=
      handleRead_failure (c := received) hconn hec
    exact endedBy_lost (c := c) (x := .readError ec) hread.toWriteInv hconn rfl rfl hfail
  · cases hstep

/-- **The late read.** A read of an earlier stream that fails while the connection is up
ends it and is reported, though nothing of the connection has failed. -/
theorem step_of_lateRead [DecidableEq H] {e : Event H} (h : c.Settled) (hlate : ¬ currentReads c e)
    (hstep : c.step cb e = some c') : c.state = .connected ∧ c.ending e = none ∧
      ∃ ec, EndedBy cb (.readError ec) c c' := by
  unfold currentReads at hlate
  split at hlate
  · simp only [Classical.not_imp] at hlate
    obtain ⟨hconn, hfailed, hother⟩ := hlate
    obtain ⟨ec, hec⟩ := Option.ne_none_iff_exists'.mp hfailed
    exact ⟨hconn, if_neg hother, ec, endedBy_failedRead h hconn hec hstep⟩
  · exact absurd trivial hlate

/-- While the connection is up, an event that ends it tears it down, and notifies
once if it is a failure. -/
theorem step_of_ending [DecidableEq H] {e : Event H} {x : Ending} (h : c.Settled)
    (hconn : c.state = .connected) (hx : c.ending e = some x) (hstep : c.step cb e = some c') :
    EndedBy cb x c c' := by
  cases e with
  | close handler =>
    cases hx
    cases hstep
    exact endedBy_close hconn handler
  | complete op r =>
    cases op with
    | connect => cases hx
    | read stream =>
      simp only [ending] at hx
      split at hx
      · obtain ⟨ec, hec, rfl⟩ := Option.map_eq_some_iff.mp hx
        exact endedBy_failedRead h hconn hec hstep
      · cases hx
    | send stream generation slot item =>
      simp only [step] at hstep
      split at hstep
      · rename_i hop
        cases hstep
        by_cases hstale : generation = c.writeGeneration
        · subst hstale
          obtain ⟨ec, hec, rfl⟩ : ∃ ec, r.ec = some ec ∧ .writeError ec = x := by
            simpa [ending] using hx
          obtain ⟨-, ht, hl⟩ := answerable_popFinished h hop r.ec
          -- the write's own handler runs before the teardown
          let called := (c.popFinished (.send stream c.writeGeneration slot item) item
            r.ec).callWriteHandler cb c.writeSlots.getFront.handler (AsioError.toErrorCode r.ec)
          have hcalled : called.WriteInv := writeInv_callWriteHandler cb ht hl
          have hstate : called.state = .connected :=
            ((stateFrame cb).callWriteHandler _ _ _).trans hconn
          have hsame : called.disconnects = c.disconnects :=
            ((disconnectsFrame.writing cb).callWriteHandler _ _ _).trans (disconnects_log _ rfl)
          have hcontinue : called.continueWriting cb r.ec =
              called.handleUnexpectedDisconnect cb (.asio ec) := by rw [hec]; rfl
          exact endedBy_lost (x := .writeError ec) hcalled hstate hsame rfl
            ((complete_popFinished cb hconn stream slot item r).trans hcontinue)
        · simp [ending, hstale] at hx
      · cases hstep
  | readTimer w =>
    obtain ⟨t, -, rfl⟩ := Option.map_eq_some_iff.mp hstep
    simp only [ending] at hx
    split at hx
    · rename_i hexpired
      cases hx
      obtain ⟨hstatus, htimeout, hnow⟩ := hexpired
      have hfail : ({ c with readTimer := t } : Client H σ).handleReadTimeout cb w.status =
          ({ c with readTimer := t } : Client H σ).handleUnexpectedDisconnect cb
            (.errc .timedOut) := by
        unfold handleReadTimeout
        rw [if_neg (by simp [hstatus, hconn]; omega), if_neg (by simp; omega)]
      have htimer : ({ c with readTimer := t } : Client H σ).Settled := settled_of_writes h rfl
      exact endedBy_lost (c := c) (x := .readTimeout) htimer.toWriteInv hconn rfl rfl hfail
    · cases hx
  | _ => cases hx

/-- Nobody is notified while the connection is not up. -/
theorem step_of_notUp [DecidableEq H] {e : Event H} (hstate : c.state ≠ .connected)
    (hstep : c.step cb e = some c') : c'.disconnects = c.disconnects := by
  cases e with
  | assign a => cases hstep; cases a <;> rfl
  | connect handler => cases hstep; exact disconnects_doConnect cb c handler
  | close handler => cases hstep; exact disconnects_close cb c handler
  | write message handler => cases hstep; exact disconnectsFrame.doWrite cb c message handler
  | writeNow inThread message => cases hstep; exact disconnectsFrame.writeNow c inThread message
  | setPingInterval interval => cases hstep; exact disconnects_setPingInterval c interval
  | setReadTimeout timeout => cases hstep; exact disconnects_setReadTimeout c timeout
  | complete op r =>
    simp only [step] at hstep
    split at hstep
    · cases hstep
      cases op with
      | connect stream phase n handler =>
        exact disconnects_complete_connect cb (c.removeOp _) stream phase n handler r
      | read stream =>
        -- a read or a write of a connection that is over is ignored
        show (handleRead cb _ r).disconnects = _
        unfold handleRead
        rw [if_pos (by simp [isConnected, removeOp, hstate])]
        rfl
      | send stream generation slot item =>
        rcases disconnectsFrame.complete_send cb (c.removeOp _) stream generation slot item r with
          hsame | ⟨hconn, -⟩
        · exact hsame
        · exact absurd hconn hstate
    · cases hstep
  | firePingTimer w | fireReadTimer w =>
    obtain ⟨t, -, rfl⟩ := Option.map_eq_some_iff.mp hstep
    rfl
  | pingTimer w =>
    obtain ⟨t, -, rfl⟩ := Option.map_eq_some_iff.mp hstep
    exact disconnects_handlePingTimer cb _ w.status
  | readTimer w =>
    obtain ⟨t, -, rfl⟩ := Option.map_eq_some_iff.mp hstep
    unfold handleReadTimeout
    rw [if_pos (.inr (.inl hstate))]
    rfl
  | _ => cases hstep; rfl

/-- A client that is disconnected stays so until it accepts a `connect()`. -/
theorem step_of_disconnected [DecidableEq H] {e : Event H} (hstate : c.state = .disconnected)
    (haccepts : ¬ c.accepts e) (hstep : c.step cb e = some c') : c'.state = .disconnected := by
  by_cases hinternal : e.IsInternal
  · cases (stateFrame cb).viewStep hinternal hstep with
    | same hsame => exact hsame.trans hstate
    | lost c₀ c₁ ec _ hconn =>
      rw [hstate] at hconn
      cases hconn
    | ignored stream phase n handler r _ _ _ hsame => exact hsame.trans hstate
    | moved stream phase n handler r _ _ hconnecting =>
      rw [hstate] at hconnecting
      cases hconnecting
  · cases e with
    | assign a => cases hstep; cases a <;> exact hstate
    | connect handler => exact absurd hstate haccepts
    | close handler =>
      cases hstep
      rw [(stateFrame cb).close, if_neg (by simp [hstate]), if_neg (by simp [hstate]), hstate]
    | _ => exact absurd trivial hinternal

/-! ## The life of a connection -/

section

variable {ε : Type} (cb) (S : System (Client H σ) ε) (ok accepts : Guard (Client H σ) ε)
  (ending : Client H σ → ε → Option Ending)

/-- What is recorded of a connection: the first event that has ended it. -/
def firstEnding (first : Option Ending) (c : Client H σ) (e : ε) (_ : Client H σ) :
    Option Ending :=
  if first = none ∧ c.state = .connected then ending c e else first

/-- What has become of the connection that was up in `c` by the time of `c'`, and whom it
was reported to, given what has ended it. -/
def Course (c c' : Client H σ) : Option Ending → Prop
  | none => c'.state = .connected ∧ c'.disconnects = c.disconnects
  | some x => c'.state = .disconnected ∧ c'.disconnects = c.disconnects ++ x.error.toList

/-- From the step that makes the state `connected` until the next `connect()` that
is accepted, a connection takes its course. -/
structure OneNotification : Prop where
  course : ∀ (c₀ c c' : Client H σ) (e : ε) (first : Option Ending), Reachable S anyStep c₀ →
    c₀.state ≠ .connected → S.step c₀ e = some c → c.state = .connected →
    Path (S.record none (firstEnding ending)) (fun p e => ok p.1 e ∧ ¬ accepts p.1 e)
      (c, none) (c', first) →
    c.disconnects = c₀.disconnects ∧ Course c c' first
  /-- whatever ends it does so as it should -/
  ended : ∀ (c c' : Client H σ) (e : ε) (x : Ending), Reachable S anyStep c →
    c.state = .connected → ending c e = some x → S.step c e = some c' → EndedBy cb x c c'

variable {cb S ok accepts ending}

/-- **The notification rule.** It is enough to know what one step does: while the
connection is up, to an event that ends it and to one that does not; and while it
is not up. -/
theorem oneNotification
    (hup : ∀ c e c', ok c e → c.state = .connected → ending c e = none → S.step c e = some c' →
      c'.state = .connected ∧ c'.disconnects = c.disconnects)
    (hends : ∀ c c' e x, Reachable S anyStep c → c.state = .connected → ending c e = some x →
      S.step c e = some c' → EndedBy cb x c c')
    (hnotUp : ∀ c e c', c.state ≠ .connected → S.step c e = some c' →
      c'.disconnects = c.disconnects)
    (hdisconnected : ∀ c e c', c.state = .disconnected → ¬ accepts c e →
      S.step c e = some c' → c'.state = .disconnected) :
    OneNotification cb S ok accepts ending := by
  refine ⟨?_, hends⟩
  intro c₀ c c' e first hr hdown hstep hconn hrun
  refine ⟨hnotUp c₀ e c hdown hstep, ?_⟩
  -- one step, which either ends the connection, or finds it up, or finds it ended
  have hcourse_step : ∀ {t t' : Client H σ} {e : ε} {first : Option Ending},
      Reachable S anyStep t → ok t e → ¬ accepts t e → S.step t e = some t' →
      Course c t first → Course c t' (firstEnding ending first t e t') := by
    intro t t' e first ht hok hno hstep hcourse
    cases first with
    | none =>
      obtain ⟨hstate, hsame⟩ := hcourse
      have hfirst : firstEnding ending none t e t' = ending t e := if_pos ⟨rfl, hstate⟩
      rw [hfirst]
      cases hx : ending t e with
      | none =>
        obtain ⟨hstate', hsame'⟩ := hup t e t' hok hstate hx hstep
        exact ⟨hstate', hsame'.trans hsame⟩
      | some x =>
        have hended := hends t t' e x ht hstate hx hstep
        exact ⟨hended.state, by rw [hended.disconnects, hsame]⟩
    | some x =>
      obtain ⟨hstate, hsame⟩ := hcourse
      have hfirst : firstEnding ending (some x) t e t' = some x := if_neg (by simp)
      rw [hfirst]
      have hne : t.state ≠ .connected := by simp [hstate]
      exact ⟨hdisconnected t e t' hstate hno hstep, (hnotUp t e t' hne hstep).trans hsame⟩
  have hcourse : Course c c none := ⟨hconn, rfl⟩
  refine (hrun.invariant (I := fun p => Course c p.1 p.2 ∧ Reachable S anyStep p.1) ?_
    ⟨hcourse, hr.step trivial hstep⟩).1
  rintro ⟨t, first⟩ e ⟨t', first'⟩ ⟨hcourse, ht⟩ ⟨hok, hno⟩ hrecord
  obtain ⟨hstep, rfl⟩ := System.record_eq_some hrecord
  exact ⟨hcourse_step ht hok hno hstep hcourse, ht.step trivial hstep⟩

end

/-- The step facts of a client, with the completions of earlier streams excluded. -/
theorem oneNotification_client [DecidableEq H] :
    OneNotification cb (system cb) currentReads accepts ending := by
  refine oneNotification ?_ ?_ ?_ ?_
  · intro c e c' hok hconn hnone hstep
    exact step_of_up hok hconn hnone hstep
  · intro c c' e x hr hconn hx hstep
    exact step_of_ending (settled_of_reachable cb hr) hconn hx hstep
  · intro c e c' hstate hstep
    exact step_of_notUp hstate hstep
  · intro c e c' hstate haccepts hstep
    exact step_of_disconnected hstate haccepts hstep

/-- A read fails while two writes are queued; the write in flight is cancelled by
that and fails later. -/
example : ((run (system (.silent : Callbacks Nat Unit)) anyStep (create () 0)
    [.connect none, .complete (.connect 1 .resolve 1 none) {},
      .complete (.connect 1 .connect 1 none) {}, .complete (.connect 1 .sslHandshake 1 none) {},
      .complete (.connect 1 .websocketHandshake 1 none) {}, .write [1] (some 3),
      .write [2] (some 4), .complete (.read 1) ⟨some (.other 5), none, none, none, []⟩,
      .complete (.send 1 0 0 ⟨.message, [1], some 3⟩)
        ⟨some .operationAborted, none, none, none, []⟩]).map fun c =>
      (c.disconnects, c.writes.answers)) =
    some ([.asio (.other 5)],
      [(3, some (.errc .operationCanceled)), (4, some (.errc .operationCanceled))]) := by
  decide

end Client

end CppComponents.SecureWebSocketClient
