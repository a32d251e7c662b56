import CppComponents.SecureWebSocketClient.Frame

/-!
# What connecting does

The other half of `Frame`: what a view sees of the steps that connect and
close. While the state is `connecting`, the completion of a connect operation
does one of three things (`Moves`): the attempt fails, its next operation is
started, or the connection is established. In any other state it does nothing.

The results hold for every view with a `Frame`. What they leave to the view is
the call of a connect handler, or of `on_unexpected_disconnect()`, on an owner
(`answerConnect`, `answerDisconnect`).
-/

namespace CppComponents.SecureWebSocketClient

variable {H σ α : Type}

/-- The operation that follows. -/
def Phase.next : Phase → Option Phase
  | .resolve => some .connect
  | .connect => some .sslHandshake
  | .sslHandshake => some .websocketHandshake
  | .websocketHandshake => none

/-- What the completion handler of a connect operation reads of the target. -/
def Phase.reads (host resource : String) : Phase → List TargetUse
  | .resolve => []
  | .connect => [.serverName host, .verification host]
  | .sslHandshake => [.websocketHandshake host resource]
  | .websocketHandshake => []

/-- An event that is neither `connect()` nor `close()`. -/
def Event.IsInternal : Event H → Prop
  | .assign _ => False
  | .connect _ => False
  | .close _ => False
  | _ => True

namespace Client

/-- Attempt `n` has read the target. -/
def logTargets (c : Client H σ) (n : Nat) (uses : List TargetUse) : Client H σ :=
  { c with trace := c.trace ++ uses.map (.target n) }

/-- Attempt `n` has made the state `connected`. -/
def establish (c : Client H σ) (n : Nat) : Client H σ :=
  ((c.setState .connected).log (.attempt (.connected n))).log (.write (.opened c.writeGeneration))

variable (cb : Callbacks H σ)

/-- The call of a connect handler, without what it writes. -/
def answerConnect (c : Client H σ) (n : Nat) (handler : Option H) (ec : Option ErrorCode) :
    Client H σ :=
  match handler with
  | none => c
  | some h =>
    { c.log (.attempt (.answered n h ec)) with owner := (cb.connect h ec c.now c.owner).1 }

/-- The call of `on_unexpected_disconnect()`, without what it writes. -/
def answerDisconnect (c : Client H σ) (ec : ErrorCode) : Client H σ :=
  { c with owner := (cb.onUnexpectedDisconnect c.disconnectHandler ec c.now c.owner).1 }

/-- What the view `V` can see of the completion of an operation of attempt `n`
while the state is `connecting`. -/
inductive Moves (V : Client H σ → α) (phase : Phase) (n : Nat) (handler : Option H)
    (c : Client H σ) (v : α) : Prop where
  | failed (uses : List TargetUse) (ec : ErrorCode) (c₁ : Client H σ) :
      uses <+: phase.reads c.host c.resource →
      V c₁ = V ((c.logTargets n uses).setState .disconnected) →
      v = V (c₁.answerConnect cb n handler (some ec)) → Moves V phase n handler c v
  | started (ws : Stream) (next : Phase) : phase.next = some next →
      v = V ((c.logTargets n (phase.reads c.host c.resource)).startPhase ws next n handler) →
      Moves V phase n handler c v
  | connected : phase = .websocketHandshake →
      v = V ((c.establish n).answerConnect cb n handler none) → Moves V phase n handler c v

/-- What the view `V` can see of a step other than `connect()` and `close()`. -/
inductive ViewStep [DecidableEq H] (V : Client H σ → α) (c : Client H σ) (e : Event H) (v : α) :
    Prop where
  | same : v = V c → ViewStep V c e v
  /-- a connection is lost -/
  | lost (c₀ c₁ : Client H σ) (ec : ErrorCode) : e.IsTransfer → c.state = .connected →
      V c₀ = V c → V c₁ = V (c₀.setState .disconnected) →
      v = V (c₁.answerDisconnect cb ec) → ViewStep V c e v
  /-- an operation completes while no attempt is in progress -/
  | ignored (stream : Nat) (phase : Phase) (n : Nat) (handler : Option H) (r : Completion) :
      e = .complete (.connect stream phase n handler) r →
      .connect stream phase n handler ∈ c.ops → (c.state = .connecting → c.ws = none) →
      v = V (c.removeOp (.connect stream phase n handler)) → ViewStep V c e v
  | moved (stream : Nat) (phase : Phase) (n : Nat) (handler : Option H) (r : Completion) :
      e = .complete (.connect stream phase n handler) r →
      .connect stream phase n handler ∈ c.ops → c.state = .connecting →
      Moves cb V phase n handler (c.removeOp (.connect stream phase n handler)) v →
      ViewStep V c e v

variable {c : Client H σ} {ws : Stream}

theorem ifConnecting_eq (hstate : c.state = .connecting) (hws : c.ws = some ws)
    (k : Stream → Client H σ) : c.ifConnecting k = k ws := by
  simp [ifConnecting, hws, isConnecting, hstate]

theorem ifConnecting_of_ne (hidle : c.state = .connecting → c.ws = none)
    (k : Stream → Client H σ) : c.ifConnecting k = c := by
  by_cases hstate : c.state = .connecting
  · simp [ifConnecting, hidle hstate]
  · cases hws : c.ws <;> simp [ifConnecting, hws, isConnecting, hstate]

/-- Without an attempt in progress the completion of a connect operation does
nothing. -/
theorem complete_connect_of_ne (hidle : c.state = .connecting → c.ws = none) (stream : Nat)
    (phase : Phase) (n : Nat) (handler : Option H) (r : Completion) :
    c.complete cb (.connect stream phase n handler) r = c := by
  cases phase <;> exact ifConnecting_of_ne hidle _

theorem logTargets_logTargets (c : Client H σ) (n : Nat) (uses uses' : List TargetUse) :
    (c.logTargets n uses).logTargets n uses' = c.logTargets n (uses ++ uses') := by
  simp [logTargets]

theorem logTargets_nil (c : Client H σ) (n : Nat) : c.logTargets n [] = c := by
  simp [logTargets]

namespace Frame

variable {cb : Callbacks H σ} {V : Client H σ → α} (F : Frame cb V)
include F

theorem callConnectHandler (c : Client H σ) (n : Nat) (handler : Option H)
    (ec : Option ErrorCode) :
    V (c.callConnectHandler cb n handler ec) = V (c.answerConnect cb n handler ec) := by
  cases handler with
  | none => rfl
  | some h => exact F.runCallback _ _

theorem rejectConnect (c : Client H σ) (h : H) :
    V ((c.log (.rejectedConnect h)).runCallback (cb.connect h (some (.errc .alreadyConnected)))) =
      V { c.log (.rejectedConnect h) with
        owner := (cb.connect h (some (.errc .alreadyConnected)) c.now c.owner).1 } :=
  F.runCallback _ _

/-- An attempt fails: the state is `disconnected`, and its handler is called. -/
theorem failConnection (hstate : c.state = .connecting) (n : Nat) (handler : Option H)
    (ec : ErrorCode) :
    ∃ c₁, V c₁ = V (c.setState .disconnected) ∧
      V (c.failConnection cb n handler ec) = V (c₁.answerConnect cb n handler (some ec)) := by
  refine ⟨c.doClose cb none, ?_, F.callConnectHandler _ n handler _⟩
  rw [F.doClose, if_pos (.inr hstate)]

/-- `close()` ends an attempt or a connection. -/
theorem close (c : Client H σ) (handler : Option HandlerId) :
    V (c.close cb handler) =
      if c.state = .connecting then
        V ((c.log (.attempt (.closed c.attempt))).setState .disconnected)
      else if c.state = .connected then V (c.setState .disconnected)
      else V c := by
  unfold Client.close
  by_cases hconnecting : c.state = .connecting
  · rw [if_pos hconnecting, if_pos hconnecting, F.doClose, if_pos (.inr hconnecting)]
  · rw [if_neg hconnecting, if_neg hconnecting, F.doClose]
    by_cases hconnected : c.state = .connected
    · rw [if_pos (.inl hconnected), if_pos hconnected]
    · rw [if_neg (not_or.mpr ⟨hconnected, hconnecting⟩), if_neg hconnected]

/-- An unexpected disconnect leaves the connection before it calls `disconnect_handler`. -/
theorem handleUnexpectedDisconnect (hstate : c.state = .connected) (ec : ErrorCode) :
    ∃ c₁, V c₁ = V (c.setState .disconnected) ∧
      V (c.handleUnexpectedDisconnect cb ec) = V (c₁.answerDisconnect cb ec) := by
  refine ⟨(c.doClose cb none).log (.disconnect ec), ?_, ?_⟩
  · rw [F.log _ (.disconnect ec) trivial, F.doClose, if_pos (.inl hstate)]
  · unfold Client.handleUnexpectedDisconnect
    rw [if_neg (not_not_intro hstate)]
    exact F.runCallback _ _

/-! ## The completion handlers -/

variable {n : Nat} {handler : Option H}

/-- An attempt fails once its completion handler has read `uses`. -/
theorem failed {phase : Phase} (uses : List TargetUse)
    (huses : uses <+: phase.reads c.host c.resource) (hstate : c.state = .connecting)
    (ec : ErrorCode) :
    Moves cb V phase n handler c (V ((c.logTargets n uses).failConnection cb n handler ec)) := by
  obtain ⟨c₁, hc₁, hfail⟩ := F.failConnection (c := c.logTargets n uses) hstate n handler ec
  exact .failed uses ec c₁ huses hc₁ hfail

/-- An attempt fails before its completion handler has read anything. -/
theorem failedFirst (phase : Phase) (hstate : c.state = .connecting) (ec : ErrorCode) :
    Moves cb V phase n handler c (V (c.failConnection cb n handler ec)) := by
  have h : Moves cb V phase n handler c (V ((c.logTargets n []).failConnection cb n handler ec)) :=
    F.failed [] List.nil_prefix hstate ec
  rwa [logTargets_nil] at h

/-- The resolver's result leads to the TCP connect, or fails the attempt. -/
theorem handleResolve (hstate : c.state = .connecting) (hws : c.ws = some ws) (r : Completion) :
    Moves cb V .resolve n handler c (V (c.handleResolve cb n handler r)) := by
  unfold Client.handleResolve
  rw [ifConnecting_eq hstate hws]
  cases r.ec with
  | some e => exact F.failedFirst .resolve hstate _
  | none =>
    refine .started ws .connect rfl ?_
    show V (c.startPhase ws .connect n handler) =
      V ((c.logTargets n []).startPhase ws .connect n handler)
    rw [logTargets_nil]

/-- The TCP connect's result leads to the TLS handshake, which reads the host twice. -/
theorem handleConnect (hstate : c.state = .connecting) (hws : c.ws = some ws) (r : Completion) :
    Moves cb V .connect n handler c (V (c.handleConnect cb n handler r)) := by
  unfold Client.handleConnect
  rw [ifConnecting_eq hstate hws]
  have hlogs : (c.log (.target n (.serverName c.host))).log (.target n (.verification c.host)) =
      c.logTargets n [.serverName c.host, .verification c.host] :=
    logTargets_logTargets c n [_] [_]
  -- each of the set-up calls reads one more member before it can fail
  cases r.ec with
  | some e => exact F.failedFirst .connect hstate _
  | none =>
    cases r.noDelay with
    | some e => exact F.failedFirst .connect hstate _
    | none =>
      cases r.serverName with
      | some e => exact F.failed [.serverName c.host] ⟨[_], rfl⟩ hstate _
      | none =>
        cases r.verifyCallback with
        | some e =>
          show Moves cb V .connect n handler c (V (((c.log (.target n (.serverName c.host))).log
            (.target n (.verification c.host))).failConnection cb n handler (.asio e)))
          rw [hlogs]
          exact F.failed _ ⟨[], rfl⟩ hstate _
        | none =>
          refine .started ws .sslHandshake rfl ?_
          show V (((c.log (.target n (.serverName c.host))).log
            (.target n (.verification c.host))).startPhase ws .sslHandshake n handler) = _
          rw [hlogs]
          rfl

/-- The TLS handshake's result leads to the WebSocket handshake, which reads host and
resource. -/
theorem handleSslHandshake (hstate : c.state = .connecting) (hws : c.ws = some ws)
    (r : Completion) :
    Moves cb V .sslHandshake n handler c (V (c.handleSslHandshake cb n handler r)) := by
  unfold Client.handleSslHandshake
  rw [ifConnecting_eq hstate hws]
  cases r.ec with
  | some e => exact F.failedFirst .sslHandshake hstate _
  | none => exact .started ws .websocketHandshake rfl rfl

/-- The WebSocket handshake's result is the connection. -/
theorem handleWebsocketHandshake (hstate : c.state = .connecting) (hws : c.ws = some ws)
    (r : Completion) :
    Moves cb V .websocketHandshake n handler c (V (c.handleWebsocketHandshake cb n handler r)) := by
  unfold Client.handleWebsocketHandshake
  rw [ifConnecting_eq hstate hws]
  cases r.ec with
  | some e => exact F.failedFirst .websocketHandshake hstate _
  | none =>
    exact .connected rfl ((F.afterHandshake _ _).trans
      (F.callConnectHandler (c.establish n) n handler none))

/-- **What the completion of a connect operation does** while the state is
`connecting`. -/
theorem moves (hstate : c.state = .connecting) (hws : c.ws = some ws) (stream : Nat)
    (phase : Phase) (n : Nat) (handler : Option H) (r : Completion) :
    Moves cb V phase n handler c (V (c.complete cb (.connect stream phase n handler) r)) := by
  cases phase with
  | resolve => exact F.handleResolve hstate hws r
  | connect => exact F.handleConnect hstate hws r
  | sslHandshake => exact F.handleSslHandshake hstate hws r
  | websocketHandshake => exact F.handleWebsocketHandshake hstate hws r

/-- What a step other than `connect()` and `close()` does. -/
theorem viewStep [DecidableEq H] {c' : Client H σ} {e : Event H} (he : e.IsInternal)
    (hstep : c.step cb e = some c') : ViewStep cb V c e (V c') := by
  by_cases htransfer : e.IsTransfer
  · rcases F.step htransfer hstep with hsame | ⟨c₀, ec, hview, hstate, rfl⟩
    · exact .same hsame
    · by_cases hconn : c₀.state = .connected
      · obtain ⟨c₁, hc₁, hdisconnect⟩ := F.handleUnexpectedDisconnect hconn ec
        exact .lost c₀ c₁ ec htransfer (hstate.symm.trans hconn) hview hc₁ hdisconnect
      · unfold Client.handleUnexpectedDisconnect
        rw [if_pos hconn]
        exact .same hview
  · cases e with
    | complete op r =>
      cases op with
      | connect stream phase n handler =>
        simp only [Client.step] at hstep
        split at hstep
        · rename_i hop
          cases hstep
          by_cases hidle : c.state = .connecting → c.ws = none
          · rw [complete_connect_of_ne (c := c.removeOp _) cb hidle]
            exact .ignored stream phase n handler r rfl hop hidle rfl
          · obtain ⟨hstate, hws⟩ := Classical.not_imp.mp hidle
            obtain ⟨ws, hws⟩ := Option.ne_none_iff_exists'.mp hws
            exact .moved stream phase n handler r rfl hop hstate
              (F.moves (c := c.removeOp _) hstate hws stream phase n handler r)
        · cases hstep
      | _ => exact absurd trivial htransfer
    | assign | connect | close => cases he
    | _ => exact absurd trivial htransfer

end Frame

/-! ## Views of the timers and of reading -/

/-- What follows a successful WebSocket handshake and the connect handler. -/
def afterHandshake (c : Client H σ) : Client H σ :=
  let c := c.setLastReadTime.startReadTimer.startRead
  c.startPingTimer (seconds c.pingInterval)

/-- What a view with a `TransportFrame` can see of the completion of an operation of an
attempt. -/
inductive Attempted (V : Client H σ → α) (c : Client H σ) (v : α) : Prop where
  | same : v = V c → Attempted V c v
  | failed (c₁ : Client H σ) : c.state = .connecting → V c₁ = V c → c₁.state = .connecting →
      v = V (c₁.doClose cb none) → Attempted V c v
  | established (c₁ : Client H σ) : c.state = .connecting → c.ws ≠ none →
      V c₁ = V (c.setState .connected) → v = V c₁.afterHandshake → Attempted V c v

/-- A view of the transport sees of all this the end of the attempt only. -/
theorem TransportFrame.complete_connect {V : Client H σ → α} (F : TransportFrame V)
    (c : Client H σ) (stream : Nat) (phase : Phase) (n : Nat) (handler : Option H)
    (r : Completion) :
    Attempted cb V c (V (c.complete cb (.connect stream phase n handler) r)) := by
  by_cases hidle : c.state = .connecting → c.ws = none
  · exact .same (congrArg V (complete_connect_of_ne cb hidle stream phase n handler r))
  obtain ⟨hstate, hws⟩ := Classical.not_imp.mp hidle
  obtain ⟨ws, hws⟩ := Option.ne_none_iff_exists'.mp hws
  -- each handler fails the connection, starts the next operation or establishes it
  have hfail : ∀ (c₁ : Client H σ) ec, V c₁ = V c → c₁.state = .connecting →
      Attempted cb V c (V (c₁.failConnection cb n handler ec)) := fun c₁ ec hsame hstate₁ =>
    .failed c₁ hstate hsame hstate₁ (F.callConnectHandler cb _ n handler _)
  have hstart : ∀ (c₁ : Client H σ) next, V c₁ = V c →
      Attempted cb V c (V (c₁.startPhase ws next n handler)) := fun c₁ next hsame =>
    .same ((F.start c₁ _ (by simp)).trans hsame)
  have hname := F.log c (.target n (.serverName c.host)) trivial
  have hverify := (F.log (c.log (.target n (.serverName c.host)))
    (.target n (.verification c.host)) trivial).trans hname
  cases phase with
  | resolve =>
    show Attempted cb V c (V (c.ifConnecting _))
    rw [ifConnecting_eq hstate hws]
    split
    · exact hfail c _ rfl hstate
    · exact hstart c _ rfl
  | connect =>
    show Attempted cb V c (V (c.ifConnecting _))
    rw [ifConnecting_eq hstate hws]
    split
    · exact hfail c _ rfl hstate
    · split
      · exact hfail c _ rfl hstate
      · simp only
        split
        · exact hfail _ _ hname hstate
        · split
          · exact hfail _ _ hverify hstate
          · exact hstart _ _ hverify
  | sslHandshake =>
    show Attempted cb V c (V (c.ifConnecting _))
    rw [ifConnecting_eq hstate hws]
    split
    · exact hfail c _ rfl hstate
    · exact hstart _ _ (F.log c _ trivial)
  | websocketHandshake =>
    show Attempted cb V c (V (c.ifConnecting _))
    rw [ifConnecting_eq hstate hws]
    split
    · exact hfail c _ rfl hstate
    · have hconnected := (F.log (c.setState .connected) (.attempt (.connected n)) trivial)
      have hopened := (F.log ((c.setState .connected).log (.attempt (.connected n)))
        (.write (.opened c.writeGeneration)) trivial).trans hconnected
      have hcalled := (F.callConnectHandler cb _ n handler none).trans hopened
      exact .established _ hstate (by simp [hws]) hcalled rfl

/-- Whoever is not told of the disconnect sees the connection close. -/
theorem TransportFrame.handleUnexpectedDisconnect {V : Client H σ → α} (F : TransportFrame V)
    (hlost : ∀ (c : Client H σ) ec, V (c.log (.disconnect ec)) = V c) {c : Client H σ}
    (hstate : c.state = .connected) (ec : ErrorCode) :
    V (c.handleUnexpectedDisconnect cb ec) = V (c.doClose cb none) := by
  unfold Client.handleUnexpectedDisconnect
  rw [if_neg (by simp [hstate])]
  exact F.onUnexpectedDisconnect cb hlost _ ec

/-- A `connect()` that is rejected only calls its handler. -/
theorem TransportFrame.rejectConnect {V : Client H σ → α} (F : TransportFrame V)
    {c : Client H σ} (hbusy : c.state ≠ .disconnected) (handler : Option H) :
    V (c.doConnect cb handler) = V c := by
  unfold doConnect
  rw [if_pos hbusy]
  cases handler with
  | none => rfl
  | some h => exact F.call c (by trivial) _

/-- A write completes: nothing is seen of it, unless it ends the connection. -/
theorem TransportFrame.complete_send {V : Client H σ → α} (F : TransportFrame V)
    (c : Client H σ) (stream generation : Nat) (slot : Fin (2 ^ writeSlotCountLog))
    (item : WriteItem) (r : Completion) :
    V (c.complete cb (.send stream generation slot item) r) = V c ∨
      c.state = .connected ∧ ∃ (c₁ : Client H σ) (ec : ErrorCode), c₁.state = .connected ∧
        V c₁ = V c ∧ c.complete cb (.send stream generation slot item) r =
          c₁.handleUnexpectedDisconnect cb ec := by
  have hlogged := (F.writing cb).logCompletion c generation item r.ec
  have hstate := (stateFrame cb).logCompletion c generation item r.ec
  show V (handleWrite cb _ generation r) = _ ∨ _ ∧ ∃ c₁ ec, _ ∧ _ ∧ handleWrite cb _ _ r = _
  generalize c.logCompletion generation item r.ec = c₀ at hlogged hstate
  unfold handleWrite
  split
  · exact .inl hlogged
  · rename_i hcurrent
    have hconnected : c₀.state = .connected := by
      simpa [isConnected] using (not_or.mp hcurrent).2
    have hcalled := ((F.writing cb).callWriteHandler c₀.releaseFront c₀.writeSlots.getFront.handler
      (AsioError.toErrorCode r.ec)).trans (((F.writing cb).releaseFront c₀).trans hlogged)
    have hconnected₁ : (c₀.releaseFront.callWriteHandler cb c₀.writeSlots.getFront.handler
        (AsioError.toErrorCode r.ec)).state = .connected :=
      ((stateFrame cb).callWriteHandler _ _ _).trans hconnected
    unfold continueWriting
    split
    · exact .inr ⟨hstate.symm.trans hconnected, _, _, hconnected₁, hcalled, rfl⟩
    · exact .inl (((F.writing cb).startWrite _).trans hcalled)

/-- The events of attempt `n`, if nothing fails. -/
def connectEvents (n : Nat) : List (Event Nat) :=
  [.connect none, .complete (.connect n .resolve n none) {},
    .complete (.connect n .connect n none) {}, .complete (.connect n .sslHandshake n none) {},
    .complete (.connect n .websocketHandshake n none) {}]

end Client

end CppComponents.SecureWebSocketClient
