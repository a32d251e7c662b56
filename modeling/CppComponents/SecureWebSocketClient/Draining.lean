import CppComponents.SecureWebSocketClient.Attempts
import CppComponents.SecureWebSocketClient.Disconnects
import CppComponents.SecureWebSocketClient.PingTimer
import CppComponents.SecureWebSocketClient.ReadTimeout
import CppComponents.SecureWebSocketClient.Reading

/-!
# Letting the executor stop

A graceful `stop()` of the executor lets it run until no operation is outstanding.
While a client is connecting or connected it always has an operation outstanding, in
every run, so the executor does not end before it. A client that is disconnected keeps
nothing but completions of what was cancelled: nothing it does starts an operation or
arms a timer until the next `connect()`, so these become fewer with every one that is
delivered (`left`).
-/

namespace CppComponents.SecureWebSocketClient

open CppComponents.Transition

variable {H σ : Type}

/-! ## A client that is not disconnected has an operation outstanding -/

/-- An attempt that is running has an operation outstanding, of whatever attempt. -/
def Attempts.Busy (v : Attempts H) : Prop :=
  v.state = .connecting → v.stream ≠ none ∧ ∃ n, v.phases n ≠ []

/-- An attempt that goes on leaves its next operation outstanding, unless the connection
ended. -/
theorem Attempts.Busy.moves {v v' : Attempts H} (hstream : v.stream ≠ none) {n : Nat}
    {handler : Option H} (h : Attempts.Moves n handler v v') : v'.Busy := by
  intro hstate
  rcases h with ⟨ec, rfl⟩ | ⟨phase, rfl⟩ | rfl
  · cases hstate
  · exact ⟨hstream, n, by simp [Attempts.start]⟩
  · cases hstate

/-- A connection that is up has a read outstanding. -/
def Reading.Busy (v : Reading) : Prop := v.state = .connected → v.stream ≠ none ∧ v.reads ≠ []

/-- The state `closing` does not outlast the function that sets it. -/
theorem Reading.not_closing_step {v v' : Reading} {e : Event H} (h : v.state ≠ .closing)
    (hstep : v.Step e v') : v'.state ≠ .closing := by
  have hread : ∀ {v : Reading}, v.state ≠ .closing → v.startRead.state ≠ .closing := by
    intro v hv
    unfold Reading.startRead
    split
    · exact hv
    · split <;> exact hv
  cases hstep with
  | same | setMessageHandler | ignored => exact h
  | opened | closed | failed => simp [Reading.closed]
  | established => exact hread (by simp)
  | delivered => exact hread h

/-- A stream with a read in flight is busy. -/
theorem Reading.Busy.startRead {v : Reading} (hstream : v.stream ≠ none) : v.startRead.Busy := by
  obtain ⟨n, hn⟩ := Option.ne_none_iff_exists'.mp hstream
  intro hstate
  unfold Reading.startRead at hstate ⊢
  simp only [hn] at hstate ⊢
  split at hstate
  · rename_i hconnected
    rw [if_pos hconnected]
    exact ⟨by simp, by simp⟩
  · rename_i hconnected
    exact absurd hstate hconnected

/-- A read that comes back is followed by the next one or by the end of the connection. -/
theorem Reading.Busy.step {v v' : Reading} {e : Event H} (h : v.Busy) (hstep : v.Step e v') :
    v'.Busy := by
  cases hstep with
  | same => exact h
  | setMessageHandler handler => exact h
  | opened =>
    intro hstate
    cases hstate
  | closed =>
    intro hstate
    cases hstate
  | established _ _ _ hstream => exact .startRead hstream
  | ignored stream r _ hstate => exact fun hconnected => absurd hconnected hstate
  | failed =>
    intro hstate
    cases hstate
  | delivered stream r hread hstate => exact .startRead (h hstate).1

namespace Client

/-- The callbacks that wait to be run: completions of operations, and of waits. -/
def left (c : Client H σ) : Nat :=
  c.ops.length + c.pingTimer.waits.length + c.readTimer.waits.length

variable {cb : Callbacks H σ} {c c' : Client H σ}

/-! ## Without a connection nothing is started -/

/-- Without a connection a callback changes its own state. -/
theorem runCallback_of_notUp (hstate : c.state ≠ .connected) (f : Callback σ) :
    c.runCallback f = { c with owner := (f c.now c.owner).1 } := by
  refine runCallback_rule (P := fun c' => c' = { c with owner := (f c.now c.owner).1 }) f rfl ?_
  rintro c' message rfl
  rcases writeNow_cases { c with owner := (f c.now c.owner).1 } true message with hsame | ⟨hup, -⟩
  · exact hsame
  · exact absurd hup hstate

/-- What is left is what was, and the state is what it was. -/
def SameLeft (c c' : Client H σ) : Prop :=
  c'.state = c.state ∧ c'.ops = c.ops ∧ c'.pingTimer = c.pingTimer ∧ c'.readTimer = c.readTimer

theorem SameLeft.left (h : c.SameLeft c') : c'.left = c.left := by
  obtain ⟨-, hops, hping, hread⟩ := h
  rw [Client.left, hops, hping, hread, Client.left]

theorem sameLeft_runCallback (hstate : c.state ≠ .connected) (f : Callback σ) :
    c.SameLeft (c.runCallback f) := by
  rw [runCallback_of_notUp hstate]
  exact ⟨rfl, rfl, rfl, rfl⟩

/-- A `write()` that is refused starts nothing that has to be waited for. -/
theorem sameLeft_doWrite (hstate : c.state ≠ .connected) (message : List UInt8)
    (handler : Option HandlerId) : c.SameLeft (c.doWrite cb message handler).2 := by
  have hrejected : (c.log (.write (.submitted handler))).queueWrite ⟨.message, message, handler⟩ =
      (some .notConnected, c.log (.write (.submitted handler))) := by
    rw [queueWrite, queueWriteError, if_pos (.inl hstate)]
  unfold doWrite
  rw [hrejected]
  cases handler with
  | none => exact ⟨rfl, rfl, rfl, rfl⟩
  | some h =>
    exact sameLeft_runCallback (c := ((c.log (.write (.submitted (some h)))).log
      (.write (.rejected h .notConnected))).log (.write (.answered h _))) hstate _

/-- Nor does a `close()` of a client that is disconnected already. -/
theorem sameLeft_close (hstate : c.state = .disconnected) (handler : Option HandlerId) :
    c.SameLeft (c.close cb handler) := by
  unfold close doClose
  rw [if_neg (by simp [hstate]), if_neg (by simp [hstate])]
  cases handler with
  | none => exact ⟨rfl, rfl, rfl, rfl⟩
  | some h => exact sameLeft_runCallback (c := c.log (.closeHandler h)) (by simp [log, hstate]) _

/-- The completion handlers find out that the client is disconnected. -/
theorem sameLeft_complete (hstate : c.state = .disconnected) (op : Op H) (r : Completion) :
    c.SameLeft (c.complete cb op r) := by
  cases op with
  | connect stream phase n handler =>
    rw [complete_connect_of_ne cb (by simp [hstate])]
    exact ⟨rfl, rfl, rfl, rfl⟩
  | read stream =>
    show c.SameLeft (handleRead cb _ r)
    unfold handleRead
    rw [if_pos (by simp [isConnected, hstate])]
    exact ⟨rfl, rfl, rfl, rfl⟩
  | send stream generation slot item =>
    show c.SameLeft (handleWrite cb (c.logCompletion generation item r.ec) generation r)
    rw [logCompletion, if_neg (by simp [hstate]), handleWrite,
      if_pos (.inr (by simp [isConnected, hstate]))]
    exact ⟨rfl, rfl, rfl, rfl⟩

end Client

/-- A callback that waited is run: the completion of an operation, or of a wait. -/
def Event.delivers : Event H → Bool
  | .complete _ _ | .pingTimer _ | .readTimer _ => true
  | _ => false

namespace Client

variable [DecidableEq H] {cb : Callbacks H σ} {c c' : Client H σ}

/-- A wait that is delivered is one less. -/
theorem length_deliver {t t' : SteadyTimer Unit} {w : Wait Unit} (h : t.deliver w = some t') :
    t'.waits.length + 1 = t.waits.length := by
  obtain ⟨hw, -, rfl⟩ := SteadyTimer.deliver_eq_some h
  have hpos := List.length_pos_of_mem hw
  show (t.waits.erase w).length + 1 = _
  rw [List.length_erase_of_mem hw]
  omega

/-- A timer that fires keeps its waits until they are delivered. -/
theorem length_fire {t t' : SteadyTimer Unit} {w : Wait Unit} {now : Int}
    (h : t.fire w now = some t') : t'.waits.length = t.waits.length := by
  obtain ⟨hw, -, rfl⟩ := SteadyTimer.fire_eq_some h
  have hmem := SteadyTimer.armed_subset_waits hw
  have hpos := List.length_pos_of_mem hmem
  show (t.waits.erase w ++ [_]).length = _
  rw [List.length_append, List.length_erase_of_mem hmem, List.length_singleton]
  omega

/-- **The step rule.** A disconnected client stays so, and what is left is what was, less
the callback that is run. -/
theorem left_step {e : Event H} (hstate : c.state = .disconnected)
    (he : e.isConnect = false) (hstep : c.step cb e = some c') :
    c'.state = .disconnected ∧ c'.left + (if e.delivers then 1 else 0) = c.left := by
  have hdown : c.state ≠ .connected := by simp [hstate]
  have hsame : ∀ {c' : Client H σ}, c.SameLeft c' → c'.state = .disconnected ∧
      c'.left + 0 = c.left := fun h => ⟨h.1.trans hstate, h.left⟩
  cases e with
  | connect handler => cases he
  | assign a => cases hstep; cases a <;> exact hsame ⟨rfl, rfl, rfl, rfl⟩
  | close handler => cases hstep; exact hsame (sameLeft_close hstate handler)
  | write message handler => cases hstep; exact hsame (sameLeft_doWrite hdown message handler)
  | writeNow inThread message =>
    cases hstep
    rcases writeNow_cases c inThread message with heq | ⟨hup, -⟩
    · rw [heq]
      exact hsame ⟨rfl, rfl, rfl, rfl⟩
    · exact absurd hup hdown
  | setPingInterval interval =>
    cases hstep
    unfold setPingInterval
    simp only
    rw [if_pos (by simp [isConnected, hstate])]
    exact hsame ⟨rfl, rfl, rfl, rfl⟩
  | setReadTimeout timeout =>
    cases hstep
    unfold setReadTimeout
    simp only
    rw [if_pos (by simp [isConnected, hstate])]
    exact hsame ⟨rfl, rfl, rfl, rfl⟩
  | complete op r =>
    obtain ⟨hop, ⟨⟩⟩ := Option.ite_none_right_eq_some.mp hstep
    have hremoved : (c.removeOp op).state = .disconnected := hstate
    have hcomplete : (c.removeOp op).SameLeft ((c.removeOp op).complete cb op r) :=
      sameLeft_complete hremoved op r
    refine ⟨hcomplete.1.trans hstate, ?_⟩
    have hpos := List.length_pos_of_mem hop
    rw [hcomplete.left]
    show (c.ops.erase op).length + c.pingTimer.waits.length + c.readTimer.waits.length + 1 = c.left
    rw [List.length_erase_of_mem hop, left]
    omega
  | firePingTimer w =>
    obtain ⟨t, ht, rfl⟩ := Option.map_eq_some_iff.mp hstep
    refine ⟨hstate, ?_⟩
    show c.ops.length + t.waits.length + c.readTimer.waits.length + 0 = c.left
    rw [length_fire ht]
    rfl
  | fireReadTimer w =>
    obtain ⟨t, ht, rfl⟩ := Option.map_eq_some_iff.mp hstep
    refine ⟨hstate, ?_⟩
    show c.ops.length + c.pingTimer.waits.length + t.waits.length + 0 = c.left
    rw [length_fire ht]
    rfl
  | pingTimer w =>
    obtain ⟨t, ht, rfl⟩ := Option.map_eq_some_iff.mp hstep
    have hlength := length_deliver ht
    unfold handlePingTimer
    rw [if_pos (.inr (.inl hdown))]
    refine ⟨hstate, ?_⟩
    show c.ops.length + t.waits.length + c.readTimer.waits.length + 1 = c.left
    rw [left]
    omega
  | readTimer w =>
    obtain ⟨t, ht, rfl⟩ := Option.map_eq_some_iff.mp hstep
    have hlength := length_deliver ht
    unfold handleReadTimeout
    rw [if_pos (.inr (.inl hdown))]
    refine ⟨hstate, ?_⟩
    show c.ops.length + c.pingTimer.waits.length + t.waits.length + 1 = c.left
    rw [left]
    omega
  | setMessageHandler | setDisconnectHandler | setPingMessageGenerator | advance =>
    cases hstep
    exact hsame ⟨rfl, rfl, rfl, rfl⟩

/-! ## What is busy -/

/-- The state of the attempts says what is outstanding; one case per kind of step. -/
theorem busy_attempts_step {e : Event H} (h : c.attempts.Busy) (hstep : c.step cb e = some c') :
    c'.attempts.Busy := by
  by_cases hinternal : e.IsInternal
  · rcases (attemptsFrame cb).viewStep hinternal hstep with hv |
      ⟨c₀, c₁, ec, -, hstate, -, hc₁, hv⟩ |
      ⟨stream, phase, n, handler, r, -, hop, hidle, hv⟩ |
      ⟨stream, phase, n, handler, r, -, hop, hstate, hmoves⟩
    · exact hv ▸ h
    · intro hconnecting
      have hclosed : c'.attempts.state = .disconnected := by
        rw [hv]
        exact congrArg Attempts.state hc₁
      rw [hconnecting] at hclosed
      cases hclosed
    · intro hconnecting
      rw [hv] at hconnecting
      exact absurd (hidle hconnecting) (h hconnecting).1
    · exact .moves (v := (c.removeOp _).attempts) (h hstate).1 (attempts_moves cb hmoves)
  · cases e with
    | assign a => cases hstep; cases a <;> exact h
    | connect handler =>
      cases hstep
      rw [attempts_doConnect]
      split
      · exact fun _ => ⟨by simp [Attempts.accept], c.attempts.current + 1,
          by simp [Attempts.accept]⟩
      · exact h
    | close handler =>
      cases hstep
      rw [attempts_close]
      unfold Attempts.close
      split
      · intro hconnecting
        cases hconnecting
      · split
        · intro hconnecting
          cases hconnecting
        · exact h
    | _ => exact absurd trivial hinternal

/-! ## Whole runs -/

/-- What keeps the executor busy while the client is not disconnected. -/
structure Busy (c : Client H σ) : Prop where
  connecting : c.attempts.Busy
  connected : c.reading.Busy
  settled : c.state ≠ .closing

/-- In every state that is not `disconnected` something is outstanding that will bring it
there. -/
theorem busy_of_reachable (hr : Reachable (system cb) anyStep c) : c.Busy := by
  refine hr.invariant ?_ ?_
  · rintro c ⟨owner, now, rfl⟩
    exact {
      connecting := fun hstate => by cases hstate
      connected := fun hstate => by cases hstate
      settled := by simp [create] }
  · intro c e c' h _ hstep
    have hreading := reading_step hstep
    exact {
      connecting := busy_attempts_step h.connecting hstep
      connected := h.connected.step hreading
      settled := Reading.not_closing_step (v := c.reading) h.settled hreading }

omit [DecidableEq H] in
/-- So an executor that still runs the client has something to complete. -/
theorem Busy.ops_ne_nil (h : c.Busy) (hstate : c.state ≠ .disconnected) : c.ops ≠ [] := by
  intro hnil
  cases hcase : c.state with
  | disconnected => exact hstate hcase
  | connecting =>
    obtain ⟨-, n, hn⟩ := h.connecting hcase
    exact hn (by simp [attempts, hnil])
  | connected => exact (h.connected hcase).2 (by simp [reading, reads, hnil])
  | closing => exact h.settled hcase

omit [DecidableEq H] in
/-- `close()` ends the connection at once, whatever is outstanding. -/
theorem Busy.state_close (h : c.Busy) (handler : Option HandlerId) :
    (c.close cb handler).state = .disconnected := by
  show (c.close cb handler).attempts.state = .disconnected
  rw [attempts_close, Attempts.close]
  split
  · rfl
  · rename_i hconnecting
    split
    · rfl
    · rename_i hconnected
      cases hcase : c.attempts.state with
      | disconnected => rfl
      | connecting => exact absurd hcase hconnecting
      | connected => exact absurd hcase hconnected
      | closing => exact absurd hcase h.settled

/-- How many of the callbacks that waited have been run. -/
def delivering (cb : Callbacks H σ) : System (Client H σ × Nat) (Event H) :=
  (system cb).record 0 fun n _ e _ => n + if e.delivers then 1 else 0

/-- The owner does not call `connect()`. -/
def withoutConnect : Guard (Client H σ × Nat) (Event H) := fun _ e => e.isConnect = false

instance (p : Client H σ × Nat) (e : Event H) : Decidable (withoutConnect p e) :=
  inferInstanceAs (Decidable (_ = _))

/-- Once disconnected, each delivery lowers the measure by one and nothing raises it, by
induction on the run. -/
theorem left_of_path {n n' : Nat} (hstate : c.state = .disconnected)
    (hrun : Path (delivering cb) withoutConnect (c, n) (c', n')) :
    c'.state = .disconnected ∧ c'.left + n' = c.left + n := by
  refine hrun.invariant (I := fun p => p.1.state = .disconnected ∧ p.1.left + p.2 = c.left + n) ?_
    ⟨hstate, rfl⟩
  rintro ⟨c₁, m⟩ e ⟨c₂, m'⟩ ⟨hstate₁, hleft⟩ he hstep
  obtain ⟨hc₂, rfl⟩ := System.record_eq_some hstep
  obtain ⟨hstate₂, hone⟩ := left_step (c := c₁) hstate₁ he hc₂
  refine ⟨hstate₂, ?_⟩
  have hleft : c₁.left + m = c.left + n := hleft
  show c₂.left + (m + if e.delivers then 1 else 0) = c.left + n
  omega

/-- Without an armed wait, any callback that waits can be run. -/
theorem exists_deliver {t : SteadyTimer Unit} (hnone : t.armed = []) (hne : t.waits ≠ []) :
    ∃ w t', t.deliver w = some t' := by
  obtain ⟨w, rest, hwaits⟩ := List.exists_cons_of_ne_nil hne
  have hw : w ∈ t.waits := by simp [hwaits]
  refine ⟨w, _, if_pos ⟨hw, fun harmed => ?_⟩⟩
  have hmem : w ∈ t.armed := List.mem_filter.mpr ⟨hw, by simp [harmed]⟩
  rw [hnone] at hmem
  cases hmem

/-- As long as something is left, some handler can be delivered. -/
theorem exists_delivers (hping : c.pingTimer.armed = []) (hread : c.readTimer.armed = [])
    (hleft : 0 < c.left) :
    ∃ (e : Event H) (c' : Client H σ), e.delivers = true ∧ c.step cb e = some c' := by
  by_cases hops : c.ops = []
  · by_cases hwaits : c.pingTimer.waits = []
    · have hne : c.readTimer.waits ≠ [] := by
        intro hnil
        simp [left, hops, hwaits, hnil] at hleft
      obtain ⟨w, t, ht⟩ := exists_deliver hread hne
      exact ⟨.readTimer w, _, rfl, congrArg (Option.map _) ht⟩
    · obtain ⟨w, t, ht⟩ := exists_deliver hping hwaits
      exact ⟨.pingTimer w, _, rfl, congrArg (Option.map _) ht⟩
  · obtain ⟨op, rest, hops⟩ := List.exists_cons_of_ne_nil hops
    have hop : op ∈ c.ops := by simp [hops]
    exact ⟨.complete op {}, _, rfl, if_pos hop⟩

/-- **The executor runs as long as there is a connection, and no longer.** In every
reachable state a client that is not disconnected has an operation outstanding, and
`close()` disconnects it. A client that is disconnected has no write queued and no timer
armed, and while anything is left, something can be run. Until the next `connect()`,
whatever else is called, it stays disconnected and every callback that is run leaves one
less. -/
theorem stop_waits_for_connection (hr : Reachable (system cb) anyStep c) :
    (c.state ≠ .disconnected → c.ops ≠ []) ∧
    (∀ handler c', c.step cb (.close handler) = some c' → c'.state = .disconnected) ∧
    (c.state = .disconnected →
      c.writeSlots.isEmpty = true ∧ c.pingTimer.armed = [] ∧ c.readTimer.armed = [] ∧
      (0 < c.left → ∃ e c', Event.delivers e = true ∧ c.step cb e = some c') ∧
      ∀ c' n, Path (delivering cb) withoutConnect (c, 0) (c', n) →
        c'.state = .disconnected ∧ c'.left + n = c.left) := by
  have hbusy := busy_of_reachable hr
  refine ⟨hbusy.ops_ne_nil, fun handler c' hclose => ?_, fun hstate => ?_⟩
  · cases hclose
    exact hbusy.state_close handler
  have hdown : c.state ≠ .connected := by simp [hstate]
  have hqueue := (settled_of_reachable cb hr).quiet hdown
  obtain ⟨since, hwatched⟩ := hr.record 0 fun since c e c' =>
    Timers.lastActivity since c.timers e c'.timers
  have hping : c.pingTimer.armed = [] :=
    (pingRuns_of_reachable hr).stopped (Timers.not_pinging hdown)
  have hread : c.readTimer.armed = [] :=
    (readRuns_of_reachable hwatched).1.runs.stopped (Timers.not_watching hdown)
  refine ⟨(Writes.queue_eq_nil_iff c.writes).mp hqueue, hping, hread, exists_delivers hping hread,
    fun c' n hrun => ?_⟩
  exact left_of_path hstate hrun

/-- A connection is closed while a message is being sent. Its read, its send and its ping
timer complete, and nothing is left. -/
def closedWhileSending : List (Event Nat) :=
  [.setPingInterval 3] ++ connectEvents 1 ++ [.write [1] none, .close none]

/-- A client that is closed while it sends: three deliveries, then nothing is left. -/
theorem stop_waits_for_connection_closedWhileSending :
    ∃ c : Client Nat Unit, Reachable (system .silent) anyStep c ∧ c.state = .disconnected ∧
      c.left = 3 ∧ c.writeSlots.isEmpty = true ∧
      ∃ c', Path (delivering .silent) withoutConnect (c, 0) (c', 3) ∧ c'.left = 0 := by
  have hany : (run (system (.silent : Callbacks Nat Unit)) anyStep (create () 0)
      closedWhileSending).any (fun c => c.state = .disconnected ∧ c.left = 3 ∧
        ((run (delivering .silent) withoutConnect (c, 0)
          [.complete (.read 1) { ec := some .operationAborted },
            .pingTimer ⟨seconds 3, .aborted, ()⟩,
            .complete (.send 1 0 0 ⟨.message, [1], none⟩) { ec := some .operationAborted }]).any
          fun p => p.2 = 3)) = true := by
    decide
  obtain ⟨c, hrun, hc⟩ := (Option.any_eq_true _ _).mp hany
  obtain ⟨hstate, hleft, hdelivered⟩ := of_decide_eq_true hc
  obtain ⟨⟨c', n⟩, hdelivering, hn⟩ := (Option.any_eq_true _ _).mp hdelivered
  obtain rfl : n = 3 := of_decide_eq_true hn
  have hr : Reachable (system .silent) anyStep c := ⟨_, ⟨(), 0, rfl⟩, Path.of_run _ hrun⟩
  have hpath := Path.of_run _ hdelivering
  obtain ⟨hempty, -, -, -, hruns⟩ := (stop_waits_for_connection hr).2.2 hstate
  have hc' : c'.left + 3 = c.left := (hruns c' 3 hpath).2
  exact ⟨c, hr, hstate, hleft, hempty, c', hpath, by omega⟩

end Client

end CppComponents.SecureWebSocketClient
