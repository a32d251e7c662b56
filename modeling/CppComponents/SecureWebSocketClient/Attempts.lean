import CppComponents.Pending
import CppComponents.SecureWebSocketClient.Connecting

/-!
# Connect attempts

An attempt that `do_connect()` accepts runs through four operations, of which
one is outstanding at a time. It ends when it fails, when it makes the state
`connected`, or when `close()` ends it; in the last case its operation is
cancelled and completes later. The completion handlers cannot tell attempts
apart: they only check that the state is `connecting`. So the completion of an
attempt that was closed is taken for one of the attempt that is running by
then.

`Attempts` is the part of a client that concerns connecting, `Attempts.Inv`
what holds of it in every run in which this does not happen
(`onlyCurrentCompletions`).
-/

namespace CppComponents.SecureWebSocketClient

open CppComponents.Transition CppComponents.Pending

variable {H σ : Type}

/-! ## The view -/

/-- The outstanding connect operations of attempt `n`. -/
def Op.asPhase (n : Nat) : Op H → Option (Phase × Option H)
  | .connect _ phase n' handler => if n' = n then some (phase, handler) else none
  | _ => none

def Obs.asAttempt : Obs H → Option (AttemptObs H)
  | .attempt o => some o
  | _ => none

theorem Op.asPhase_of_isTransfer {op : Op H} (hop : op.IsTransfer) (n : Nat) :
    op.asPhase n = none := by
  cases op with
  | connect => cases hop
  | _ => rfl

theorem Obs.asAttempt_of_isTransfer {o : Obs H} (ho : o.IsTransfer) : o.asAttempt = none := by
  cases o with
  | attempt => cases ho
  | _ => rfl

/-- The attempt an observation is of. -/
def AttemptObs.attempt : AttemptObs H → Nat
  | .accepted n _ => n
  | .connected n => n
  | .closed n => n
  | .answered n _ _ => n

def AttemptObs.asAnswer : AttemptObs H → Option (H × Option ErrorCode)
  | .answered _ handler ec => some (handler, ec)
  | _ => none

@[ext] structure Attempts (H : Type) where
  state : ConnectionState
  stream : Option Stream
  current : Nat
  phases : Nat → List (Phase × Option H)
  log : List (AttemptObs H)

/-- The part of a client that concerns connecting. -/
def Client.attempts (c : Client H σ) : Attempts H where
  state := c.state
  stream := c.ws
  current := c.attempt
  phases n := c.ops.filterMap (Op.asPhase n)
  log := c.trace.filterMap Obs.asAttempt

namespace Attempts

/-- What happened to attempt `n`. -/
def history (v : Attempts H) (n : Nat) : List (AttemptObs H) := v.log.filter (·.attempt = n)

/-- The calls of the connect handler of attempt `n`. -/
def answers (v : Attempts H) (n : Nat) : List (H × Option ErrorCode) :=
  (v.history n).filterMap AttemptObs.asAnswer

/-- The call of the connect handler of attempt `n`, if it has one. -/
def answer (n : Nat) (handler : Option H) (ec : Option ErrorCode) : List (AttemptObs H) :=
  handler.toList.map fun handler => .answered n handler ec

/-- The history of an attempt that is over. -/
inductive Ended (n : Nat) (handler : Option H) : List (AttemptObs H) → Prop where
  | closed : Ended n handler [.accepted n handler, .closed n]
  | connected : Ended n handler ([.accepted n handler, .connected n] ++ answer n handler none)
  | failed (ec : ErrorCode) :
      Ended n handler ([.accepted n handler] ++ answer n handler (some ec))

/-- Attempt `n` is the one that is running. -/
def Running (v : Attempts H) (n : Nat) : Prop := v.state = .connecting ∧ n = v.current

/-- What holds while no completion of an earlier attempt is taken for one of
the attempt that is running. -/
structure Inv (v : Attempts H) : Prop where
  fresh : ∀ n, n = 0 ∨ v.current < n → v.history n = [] ∧ v.phases n = []
  /-- the running attempt has one operation outstanding, with its handler -/
  running : v.state = .connecting → v.stream ≠ none ∧ 0 < v.current ∧ ∃ phase handler,
    v.phases v.current = [(phase, handler)] ∧ v.history v.current = [.accepted v.current handler]
  ended : ∀ n, 0 < n → n ≤ v.current → ¬ v.Running n → ∃ handler, Ended n handler (v.history n)

/-! ## What can happen to an attempt -/

/-- `do_connect()` accepts an attempt. -/
def accept (v : Attempts H) (handler : Option H) : Attempts H where
  state := .connecting
  stream := some ⟨v.current + 1⟩
  current := v.current + 1
  phases n := if n = v.current + 1 then v.phases n ++ [(.resolve, handler)] else v.phases n
  log := v.log ++ [.accepted (v.current + 1) handler]

/-- The next operation of attempt `n` is started. -/
def start (v : Attempts H) (n : Nat) (phase : Phase) (handler : Option H) : Attempts H :=
  { v with phases := fun m => if m = n then v.phases m ++ [(phase, handler)] else v.phases m }

/-- The state becomes `state`, and `os` is recorded. -/
def enter (v : Attempts H) (state : ConnectionState) (os : List (AttemptObs H)) : Attempts H :=
  { v with state := state, log := v.log ++ os }

/-- `close()` ends the running attempt, or a connection. -/
def close (v : Attempts H) : Attempts H :=
  if v.state = .connecting then v.enter .disconnected [.closed v.current]
  else if v.state = .connected then { v with state := .disconnected }
  else v

/-- An operation completes: `phases` are left. -/
def complete (v : Attempts H) (phases : Nat → List (Phase × Option H)) : Attempts H :=
  { v with phases := phases }

/-- `rest` are the operations that are left when operation `phase` of attempt `n`
completes. -/
structure Completes (v : Attempts H) (n : Nat) (phase : Phase) (handler : Option H)
    (rest : Nat → List (Phase × Option H)) : Prop where
  mem : (phase, handler) ∈ v.phases n
  other : ∀ m, m ≠ n → rest m = v.phases m
  fresh : ∀ m, v.phases m = [] → rest m = []
  last : v.phases n = [(phase, handler)] → rest n = []

/-- What the completion of an operation of attempt `n` does while the state is
`connecting`: attempt `n` fails, goes on, or is connected. -/
def Moves (n : Nat) (handler : Option H) (v v' : Attempts H) : Prop :=
  (∃ ec, v' = v.enter .disconnected (answer n handler (some ec))) ∨
  (∃ phase, v' = v.start n phase handler) ∨
  v' = v.enter .connected (.connected n :: answer n handler none)

theorem history_append (v : Attempts H) (os : List (AttemptObs H)) (n : Nat) :
    ({ v with log := v.log ++ os } : Attempts H).history n =
      v.history n ++ os.filter (·.attempt = n) := List.filter_append ..

theorem attempt_of_mem_answer {n : Nat} {handler : Option H} {ec : Option ErrorCode}
    {o : AttemptObs H} (ho : o ∈ answer n handler ec) : o.attempt = n := by
  obtain ⟨h, -, rfl⟩ := List.mem_map.mp ho
  rfl

/-- What is recorded of attempt `n` only is its history and no other's. -/
theorem filter_attempt {os : List (AttemptObs H)} {n m : Nat} (h : ∀ o ∈ os, o.attempt = n) :
    os.filter (·.attempt = m) = if m = n then os else [] := by
  by_cases hm : m = n
  · rw [if_pos hm, List.filter_eq_self]
    intro o ho
    simp [h o ho, hm]
  · rw [if_neg hm, List.filter_eq_nil_iff]
    intro o ho
    simp [h o ho, Ne.symm hm]

namespace Inv

variable {v : Attempts H}

/-- An accepted `connect()` opens attempt number `next`, of which nothing was recorded
before. -/
theorem accept (h : v.Inv) (hstate : v.state = .disconnected) (handler : Option H) :
    (v.accept handler).Inv := by
  have hnew := h.fresh (v.current + 1) (.inr (Nat.lt_succ_self _))
  have hhistory : ∀ n, (v.accept handler).history n =
      v.history n ++ if n = v.current + 1 then [.accepted (v.current + 1) handler] else [] := by
    intro n
    refine (history_append v _ n).trans ?_
    rw [filter_attempt (n := v.current + 1) (by simp [AttemptObs.attempt])]
  -- the new attempt has a number that nothing has been recorded of
  exact {
    fresh := fun n hn => by
      have hne : n ≠ v.current + 1 := by
        rcases hn with hzero | hlt
        · omega
        · exact Nat.ne_of_gt hlt
      have hn' : n = 0 ∨ v.current < n := hn.imp_right fun hlt => Nat.lt_of_succ_lt hlt
      refine ⟨?_, ?_⟩
      · rw [hhistory, if_neg hne, List.append_nil]
        exact (h.fresh n hn').1
      · simpa [Attempts.accept, hne] using (h.fresh n hn').2
    running := fun _ => by
      refine ⟨by simp [Attempts.accept], Nat.succ_pos _, .resolve, handler, ?_, ?_⟩
      · simp [Attempts.accept, hnew.2]
      · have hcurrent := hhistory (v.current + 1)
        rwa [hnew.1, if_pos rfl] at hcurrent
    ended := fun n hpos hle hrun => by
      have hne : n ≠ v.current + 1 := fun heq => hrun ⟨rfl, heq⟩
      have hle : n ≤ v.current + 1 := hle
      rw [hhistory, if_neg hne, List.append_nil]
      refine h.ended n hpos (by omega) fun hold => ?_
      have hconnecting := hold.1
      rw [hstate] at hconnecting
      cases hconnecting }

/-- The running attempt goes on to its next operation. -/
theorem advance (h : v.Inv) (phases : Nat → List (Phase × Option H))
    (hstate : v.state = .connecting) {phase : Phase} {handler : Option H}
    (hmem : (phase, handler) ∈ v.phases v.current) (hnone : phases v.current = [])
    (hother : ∀ n, n ≠ v.current → phases n = v.phases n) (next : Phase) :
    ((v.complete phases).start v.current next handler).Inv := by
  obtain ⟨hws, hpos, phase', handler', hphases, hhistory⟩ := h.running hstate
  rw [hphases] at hmem
  obtain ⟨rfl, rfl⟩ := Prod.mk.inj (List.mem_singleton.mp hmem)
  exact {
    fresh := fun n hn => by
      have hne : n ≠ v.current := by
        rcases hn with hzero | hlt
        · omega
        · exact Nat.ne_of_gt hlt
      refine ⟨(h.fresh n hn).1, ?_⟩
      simp [start, complete, hne, hother n hne, (h.fresh n hn).2]
    running := fun _ =>
      ⟨hws, hpos, next, handler, by simp [start, complete, hnone], hhistory⟩
    ended := h.ended }

/-- The running attempt ends. -/
theorem finish (h : v.Inv) (phases : Nat → List (Phase × Option H)) (os : List (AttemptObs H))
    (hstate : v.state = .connecting) {phase : Phase} {handler : Option H}
    (hmem : (phase, handler) ∈ v.phases v.current)
    (hfresh : ∀ n, v.phases n = [] → phases n = []) {state : ConnectionState}
    (hover : state ≠ .connecting) (hos : ∀ o ∈ os, o.attempt = v.current)
    (hended : Ended v.current handler ([.accepted v.current handler] ++ os)) :
    ((v.complete phases).enter state os).Inv := by
  obtain ⟨-, hpos, phase', handler', hphases, hcurrent⟩ := h.running hstate
  rw [hphases] at hmem
  obtain ⟨rfl, rfl⟩ := Prod.mk.inj (List.mem_singleton.mp hmem)
  have hhistory : ∀ n, ((v.complete phases).enter state os).history n =
      v.history n ++ if n = v.current then os else [] := by
    intro n
    refine (history_append v os n).trans ?_
    rw [filter_attempt hos]
  -- only the history of the current attempt grows, and it grows to an ending
  exact {
    fresh := fun n hn => by
      have hne : n ≠ v.current := by
        rcases hn with hzero | hlt
        · omega
        · exact Nat.ne_of_gt hlt
      refine ⟨?_, hfresh n (h.fresh n hn).2⟩
      rw [hhistory, if_neg hne, List.append_nil]
      exact (h.fresh n hn).1
    running := fun hconn => absurd hconn hover
    ended := fun n hn hle _ => by
      by_cases heq : n = v.current
      · subst heq
        refine ⟨handler, ?_⟩
        rw [hhistory, if_pos rfl, hcurrent]
        exact hended
      · rw [hhistory, if_neg heq, List.append_nil]
        exact h.ended n hn hle fun hrun => heq hrun.2 }

/-- An operation of an attempt that is over completes. -/
theorem complete (h : v.Inv) (phases : Nat → List (Phase × Option H))
    (hfresh : ∀ n, v.phases n = [] → phases n = [])
    (hcurrent : v.state = .connecting → phases v.current = v.phases v.current) :
    (v.complete phases).Inv where
  fresh := fun n hn => ⟨(h.fresh n hn).1, hfresh n (h.fresh n hn).2⟩
  running := fun hstate => by
    obtain ⟨hws, hpos, phase, handler, hphases, hhistory⟩ := h.running hstate
    exact ⟨hws, hpos, phase, handler, (hcurrent hstate).trans hphases, hhistory⟩
  ended := h.ended

/-- A connection is lost. -/
theorem lose (h : v.Inv) (hstate : v.state ≠ .connecting) {state : ConnectionState}
    (hover : state ≠ .connecting) : ({ v with state := state } : Attempts H).Inv where
  fresh := h.fresh
  running := fun hconn => absurd hconn hover
  ended := fun n hpos hle _ => h.ended n hpos hle fun hrun => hstate hrun.1

/-- An operation of the running attempt completes. -/
theorem progress (h : v.Inv) (hstate : v.state = .connecting) {phase : Phase}
    {handler : Option H} {rest : Nat → List (Phase × Option H)}
    (hcompletes : v.Completes v.current phase handler rest) {v' : Attempts H}
    (hmoves : Moves v.current handler (v.complete rest) v') : v'.Inv := by
  rcases hmoves with ⟨ec, rfl⟩ | ⟨next, rfl⟩ | rfl
  · exact h.finish rest _ hstate hcompletes.mem hcompletes.fresh (by decide)
      (fun o ho => Attempts.attempt_of_mem_answer ho) (.failed ec)
  · obtain ⟨-, -, phase', handler', hphases, -⟩ := h.running hstate
    have hmem := hcompletes.mem
    rw [hphases] at hmem
    have hlast : v.phases v.current = [(phase, handler)] := by
      rw [hphases, List.mem_singleton.mp hmem]
    exact h.advance rest hstate hcompletes.mem (hcompletes.last hlast) hcompletes.other next
  · refine h.finish rest _ hstate hcompletes.mem hcompletes.fresh (by decide) ?_ .connected
    intro o ho
    rcases List.mem_cons.mp ho with rfl | ho
    · rfl
    · exact Attempts.attempt_of_mem_answer ho

/-- `close()` -/
theorem close (h : v.Inv) : v.close.Inv := by
  unfold Attempts.close
  split
  · rename_i hstate
    obtain ⟨-, -, phase, handler, hphases, -⟩ := h.running hstate
    have hmem : (phase, handler) ∈ v.phases v.current := by
      rw [hphases]
      exact List.mem_singleton_self _
    exact h.finish v.phases [.closed v.current] hstate hmem (fun _ hnil => hnil) (by decide)
      (by simp [AttemptObs.attempt]) .closed
  · rename_i hstate
    split
    · exact h.lose hstate (by decide)
    · exact h

end Inv

end Attempts

namespace Client

/-! ## What leaves the attempts alone -/

theorem attempts_log (c : Client H σ) {o : Obs H} (ho : o.asAttempt = none) :
    (c.log o).attempts = c.attempts := by
  simp [attempts, log, ho]

theorem attempts_log_attempt (c : Client H σ) (o : AttemptObs H) :
    (c.log (.attempt o)).attempts = { c.attempts with log := c.attempts.log ++ [o] } := by
  simp [attempts, log, Obs.asAttempt]

theorem attempts_logTargets (c : Client H σ) (n : Nat) (uses : List TargetUse) :
    (c.logTargets n uses).attempts = c.attempts := by
  simp [attempts, logTargets, List.filterMap_map, Obs.asAttempt]

theorem attempts_startOp (c : Client H σ) {op : Op H} (hop : op.IsTransfer) :
    ({ c with ops := c.ops ++ [op] } : Client H σ).attempts = c.attempts := by
  simp [attempts, Op.asPhase_of_isTransfer hop]

theorem attempts_removeOp [DecidableEq H] (c : Client H σ) {op : Op H} (hop : op.IsTransfer) :
    (c.removeOp op).attempts = c.attempts :=
  Attempts.ext rfl rfl rfl
    (funext fun n => filterMap_erase_of_none (Op.asPhase_of_isTransfer hop n) c.ops) rfl

/-- The attempts are a view that reads, writes, timers and user code leave alone. -/
theorem attemptsFrame (cb : Callbacks H σ) : Frame cb attempts where
  fields := fun _ _ _ _ _ _ _ _ => rfl
  settings := fun _ _ _ _ _ _ _ => rfl
  start := fun c _ hop => attempts_startOp c hop
  remove := fun c _ hop => attempts_removeOp c hop
  log := fun c _ ho => attempts_log c (Obs.asAttempt_of_isTransfer ho)
  owner := fun _ _ _ => rfl
  setState := fun _ _ state h => congrArg (fun v : Attempts H => { v with state := state }) h

variable (cb : Callbacks H σ)

theorem attempts_answerConnect (c : Client H σ) (n : Nat) (handler : Option H)
    (ec : Option ErrorCode) :
    (c.answerConnect cb n handler ec).attempts =
      { c.attempts with log := c.attempts.log ++ Attempts.answer n handler ec } := by
  cases handler with
  | none => simp [answerConnect, Attempts.answer]
  | some h => exact attempts_log_attempt c (.answered n h ec)

/-! ## What happens to the attempts -/

/-- Each phase of the chain starts the next one under the same number and handler. -/
theorem attempts_startPhase (c : Client H σ) (ws : Stream) (phase : Phase) (n : Nat)
    (handler : Option H) :
    (c.startPhase ws phase n handler).attempts = c.attempts.start n phase handler := by
  refine Attempts.ext rfl rfl rfl (funext fun m => ?_) rfl
  by_cases hm : m = n
  · simp [attempts, startPhase, Attempts.start, Op.asPhase, hm]
  · simp [attempts, startPhase, Attempts.start, Op.asPhase, hm, Ne.symm hm]

/-- `connect()` is accepted in `disconnected` and answered with an error in any other
state. -/
theorem attempts_doConnect (c : Client H σ) (handler : Option H) :
    (c.doConnect cb handler).attempts =
      if c.state = .disconnected then c.attempts.accept handler else c.attempts := by
  unfold doConnect
  by_cases hstate : c.state ≠ .disconnected
  · rw [if_pos hstate, if_neg hstate]
    cases handler with
    | none => rfl
    | some handler => exact ((attemptsFrame cb).rejectConnect c handler).trans (attempts_log c rfl)
  · rw [if_neg hstate, if_pos (Decidable.not_not.mp hstate)]
    refine (attempts_startPhase _ _ _ _ _).trans ?_
    rw [attempts_log _ rfl, attempts_log_attempt]
    rfl

variable {c : Client H σ} {ws : Stream}

/-- What the completion of an operation does to the attempts. -/
theorem attempts_moves {phase : Phase} {n : Nat} {handler : Option H} {v : Attempts H}
    (h : Moves cb attempts phase n handler c v) : Attempts.Moves n handler c.attempts v := by
  rcases h with ⟨uses, ec, c₁, -, hc₁, hv⟩ | ⟨ws', next, -, hv⟩ | ⟨-, hv⟩
  · left
    refine ⟨ec, hv.trans ((attempts_answerConnect cb c₁ n handler _).trans ?_)⟩
    rw [hc₁, ← attempts_logTargets c n uses]
    rfl
  · right; left
    refine ⟨next, hv.trans ((attempts_startPhase _ ws' next n handler).trans ?_)⟩
    rw [attempts_logTargets]
  · right; right
    refine hv.trans ((attempts_answerConnect cb _ n handler _).trans ?_)
    rw [establish, attempts_log _ rfl, attempts_log_attempt]
    simp [Attempts.enter, attempts, setState]

/-- A result that arrives while the client still connects moves the attempt on, connects it
or fails it: one case per phase. -/
theorem moves_complete (hstate : c.state = .connecting) (hws : c.ws = some ws) (stream : Nat)
    (phase : Phase) (n : Nat) (handler : Option H) (r : Completion) :
    Attempts.Moves n handler c.attempts
      (c.complete cb (.connect stream phase n handler) r).attempts :=
  attempts_moves cb ((attemptsFrame cb).moves hstate hws stream phase n handler r)

/-- Only a WebSocket handshake that succeeds makes the state `connected`. -/
theorem success_of_connected (hstate : c.state = .connecting) (hws : c.ws = some ws)
    {stream : Nat} {phase : Phase} {n : Nat} {handler : Option H} {r : Completion}
    (hconnected : (c.complete cb (.connect stream phase n handler) r).state = .connected) :
    phase = .websocketHandshake ∧ r.ec = none := by
  have hphase : phase = .websocketHandshake := by
    rcases (attemptsFrame cb).moves hstate hws stream phase n handler r with
      ⟨uses, ec, c₁, -, hc₁, hv⟩ | ⟨ws', next, -, hv⟩ | ⟨hphase, -⟩
    · rw [attempts_answerConnect, hc₁] at hv
      have hclosed : ConnectionState.disconnected = .connected :=
        (congrArg Attempts.state hv).symm.trans hconnected
      cases hclosed
    · rw [attempts_startPhase] at hv
      have hnew : (c.complete cb (.connect stream phase n handler) r).state = c.state :=
        congrArg Attempts.state hv
      rw [hconnected, hstate] at hnew
      cases hnew
    · exact hphase
  subst hphase
  refine ⟨rfl, ?_⟩
  cases hec : r.ec with
  | none => rfl
  | some e =>
    -- then the attempt fails
    obtain ⟨c₁, hc₁, hfail⟩ := (attemptsFrame cb).failConnection hstate n handler (.asio e)
    rw [attempts_answerConnect, hc₁] at hfail
    have hcomplete : c.complete cb (.connect stream .websocketHandshake n handler) r =
        c.failConnection cb n handler (.asio e) := by
      show c.handleWebsocketHandshake cb n handler r = _
      rw [handleWebsocketHandshake, ifConnecting_eq hstate hws, hec]
    rw [hcomplete] at hconnected
    have hclosed : ConnectionState.disconnected = .connected :=
      (congrArg Attempts.state hfail).symm.trans hconnected
    cases hclosed

/-- `close()` ends the attempt that is running and answers nothing. -/
theorem attempts_close (c : Client H σ) (handler : Option HandlerId) :
    (c.close cb handler).attempts = c.attempts.close := by
  refine ((attemptsFrame cb).close c handler).trans ?_
  have hlog := congrArg (fun v : Attempts H => { v with state := .disconnected })
    (attempts_log_attempt c (.closed c.attempt))
  exact if_congr .rfl hlog rfl

/-- A completion takes its own operation off the phases that are outstanding. -/
theorem completes_removeOp [DecidableEq H] {stream : Nat} {phase : Phase} {n : Nat}
    {handler : Option H} (hop : .connect stream phase n handler ∈ c.ops) :
    c.attempts.Completes n phase handler
      (c.removeOp (.connect stream phase n handler)).attempts.phases where
  mem := List.mem_filterMap.mpr ⟨_, hop, by simp [Op.asPhase]⟩
  other := fun m hm => filterMap_erase_of_none (by simp [Op.asPhase, Ne.symm hm]) c.ops
  fresh := fun _ hnil => filterMap_erase_eq_nil hnil
  last := fun hphases =>
    filterMap_erase_of_singleton hop (b := (phase, handler)) (by simp [Op.asPhase]) hphases

/-! ## Runs without stale completions -/

/-- While an attempt is running, only its own operations complete. -/
def onlyCurrentCompletions : Guard (Client H σ) (Event H)
  | c, .complete (.connect _ _ n _) _ => c.state = .connecting → n = c.attempt
  | _, _ => True

instance (c : Client H σ) (e : Event H) : Decidable (onlyCurrentCompletions c e) := by
  unfold onlyCurrentCompletions
  split <;> infer_instance

/-- One case per kind of step: what is not about attempts changes nothing, an idle
completion only leaves, and a current one moves its own attempt. -/
theorem inv_viewStep [DecidableEq H] {e : Event H} {v : Attempts H} (h : c.attempts.Inv)
    (hok : onlyCurrentCompletions c e) (hstep : ViewStep cb attempts c e v) : v.Inv := by
  rcases hstep with hv | ⟨c₀, c₁, ec, -, hstate, hc₀, hc₁, hv⟩ |
    ⟨stream, phase, n, handler, r, -, hop, hidle, hv⟩ |
    ⟨stream, phase, n, handler, r, rfl, hop, hstate, hmoves⟩
  · exact hv ▸ h
  · have hlost : v = { c.attempts with state := .disconnected } :=
      hv.trans (hc₁.trans (congrArg (fun v : Attempts H => { v with state := .disconnected }) hc₀))
    have hne : c.attempts.state ≠ .connecting := by simp [attempts, hstate]
    rw [hlost]
    exact h.lose hne (by decide)
  · rw [hv]
    exact h.complete _ (completes_removeOp hop).fresh
      fun hconn => absurd (hidle hconn) (h.running hconn).1
  · obtain rfl : n = c.attempt := hok hstate
    exact h.progress hstate (completes_removeOp hop) (attempts_moves cb hmoves)

/-- Each event keeps what is known of the attempts, if it is not the result of an attempt
that `close()` has ended. -/
theorem inv_step [DecidableEq H] {c' : Client H σ} {e : Event H} (h : c.attempts.Inv)
    (hok : onlyCurrentCompletions c e) (he : c.step cb e = some c') : c'.attempts.Inv := by
  by_cases hinternal : e.IsInternal
  · exact inv_viewStep cb h hok ((attemptsFrame cb).viewStep hinternal he)
  · cases e with
    | assign a => cases he; cases a <;> exact h
    | connect handler =>
      cases he
      rw [attempts_doConnect]
      split
      · exact h.accept ‹_› handler
      · exact h
    | close handler =>
      cases he
      rw [attempts_close]
      exact h.close
    | _ => exact absurd trivial hinternal

/-- No attempt has begun on a new client. -/
theorem inv_create (owner : σ) (now : Int) : (create owner now : Client H σ).attempts.Inv where
  fresh := fun _ _ => ⟨rfl, rfl⟩
  running := fun hstate => by cases hstate
  ended := fun n hpos hle _ => by
    have hle : n ≤ 0 := hle
    omega

/-- The invariant holds in every state that the condition lets the client reach. -/
theorem inv_of_reachable [DecidableEq H] (hr : Reachable (system cb) onlyCurrentCompletions c) :
    c.attempts.Inv := by
  refine hr.invariant (I := fun c => c.attempts.Inv) ?_ ?_
  · rintro c ⟨owner, now, rfl⟩
    exact inv_create owner now
  · intro c e c' h hok he
    exact inv_step cb h hok he

/-! ## Isolation -/

/-- The isolation of connect attempts, as far as `ok` allows completions. -/
structure Isolated [DecidableEq H] (ok : Guard (Client H σ) (Event H)) (c : Client H σ) :
    Prop where
  /-- a completion of an attempt that is over does nothing -/
  finished : ∀ stream phase n handler r, .connect stream phase n handler ∈ c.ops →
    ¬ c.attempts.Running n → ok c (.complete (.connect stream phase n handler) r) →
    c.step cb (.complete (.connect stream phase n handler) r) =
      some (c.removeOp (.connect stream phase n handler))
  /-- the handler of an attempt that `close()` did not end is called once -/
  answered : ∀ n handler, .accepted n (some handler) ∈ c.attempts.log →
    .closed n ∉ c.attempts.log → c.attempts.phases n = [] →
    ∃ ec, c.attempts.answers n = [(handler, ec)] ∧
      (ec = none ↔ .connected n ∈ c.attempts.log)
  /-- the handler of an attempt that `close()` ended is not called -/
  closed : ∀ n, .closed n ∈ c.attempts.log → c.attempts.answers n = []

theorem mem_history {v : Attempts H} {o : AttemptObs H} {n : Nat} (ho : o.attempt = n) :
    o ∈ v.history n ↔ o ∈ v.log := by
  simp [Attempts.history, ho]

/-- An attempt that was accepted and is not running is over. -/
theorem ended_of_mem {v : Attempts H} (h : v.Inv) {n : Nat} {o : AttemptObs H}
    (ho : o ∈ v.log) (hn : o.attempt = n) (hrun : ¬ v.Running n) :
    ∃ handler, Attempts.Ended n handler (v.history n) := by
  have hmem : o ∈ v.history n := (mem_history hn).mpr ho
  refine h.ended n ?_ ?_ hrun
  · by_contra hzero
    rw [(h.fresh n (.inl (by omega))).1] at hmem
    cases hmem
  · by_contra hlt
    rw [(h.fresh n (.inr (by omega))).1] at hmem
    cases hmem

/-- An attempt is accepted once, with one handler. -/
theorem handler_of_accepted {n : Nat} {handler handler' : Option H} {l : List (AttemptObs H)}
    (hended : Attempts.Ended n handler' l) (hmem : .accepted n handler ∈ l) :
    handler = handler' := by
  cases hended with
  | closed => simpa using hmem
  | connected => cases handler' <;> simpa [Attempts.answer] using hmem
  | failed e => cases handler' <;> simpa [Attempts.answer] using hmem

/-- An attempt that was not closed and has no operation left has been answered, once, and
without an error only if it connected. -/
theorem answered_of_inv {v : Attempts H} (h : v.Inv) {n : Nat} {handler : H}
    (haccepted : .accepted n (some handler) ∈ v.log) (hclosed : .closed n ∉ v.log)
    (hnone : v.phases n = []) :
    ∃ ec, v.answers n = [(handler, ec)] ∧ (ec = none ↔ .connected n ∈ v.log) := by
  have hrun : ¬ v.Running n := by
    rintro ⟨hstate, rfl⟩
    obtain ⟨-, -, phase, handler', hphases, -⟩ := h.running hstate
    rw [hphases] at hnone
    cases hnone
  obtain ⟨handler', hended⟩ := ended_of_mem (n := n) h haccepted rfl hrun
  rw [← mem_history (n := n) rfl] at haccepted hclosed
  rw [← mem_history (v := v) (n := n) (o := .connected n) rfl, Attempts.answers]
  generalize v.history n = l at hended haccepted hclosed
  obtain rfl := handler_of_accepted hended haccepted
  cases hended with
  | closed => exact absurd (by simp) hclosed
  | connected => exact ⟨none, rfl, by simp⟩
  | failed e => exact ⟨some e, rfl, by simp [Attempts.answer]⟩

/-- After `close()` the handler of the attempt is never called. -/
theorem not_answered_of_closed {v : Attempts H} (h : v.Inv) {n : Nat}
    (hclosed : .closed n ∈ v.log) : v.answers n = [] := by
  have hmem : .closed n ∈ v.history n := (mem_history rfl).mpr hclosed
  have hrun : ¬ v.Running n := by
    rintro ⟨hstate, rfl⟩
    obtain ⟨-, -, phase, handler, -, hhistory⟩ := h.running hstate
    simp [hhistory] at hmem
  obtain ⟨handler, hended⟩ := ended_of_mem (n := n) h hclosed rfl hrun
  rw [Attempts.answers]
  generalize v.history n = l at hended hmem
  cases hended with
  | closed => simp [AttemptObs.asAnswer]
  | connected => cases handler <;> simp [Attempts.answer] at hmem
  | failed e => cases handler <;> simp [Attempts.answer] at hmem

/-- While an attempt is running, no completion of a connect operation is
without effect. -/
theorem acts_of_connecting [DecidableEq H] (hstate : c.state = .connecting)
    (hws : c.ws = some ws) {stream : Nat} {phase : Phase} {n : Nat} {handler : Option H}
    (hop : .connect stream phase n handler ∈ c.ops) (r : Completion) :
    c.step cb (.complete (.connect stream phase n handler) r) ≠
      some (c.removeOp (.connect stream phase n handler)) := by
  intro hstep
  rw [step, if_pos hop] at hstep
  have hmoves := moves_complete cb (c := c.removeOp (.connect stream phase n handler)) hstate hws
    stream phase n handler r
  rw [Option.some.inj hstep] at hmoves
  rcases hmoves with ⟨ec, hv⟩ | ⟨next, hv⟩ | hv
  · have hs : c.state = _ := congrArg Attempts.state hv
    rw [hstate] at hs
    cases hs
  · have hlen := congrArg (fun v : Attempts H => (v.phases n).length) hv
    simp [Attempts.start] at hlen
  · have hs : c.state = _ := congrArg Attempts.state hv
    rw [hstate] at hs
    cases hs

/-- **Connect attempts are isolated** in every run in which, while an attempt is
running, only its own operations complete. The restriction is needed: a
completion of another attempt that is delivered then always has an effect. -/
theorem attempts_isolated [DecidableEq H] (hr : Reachable (system cb) onlyCurrentCompletions c) :
    Isolated cb onlyCurrentCompletions c ∧
    ∀ stream phase n handler r, .connect stream phase n handler ∈ c.ops →
      ¬ onlyCurrentCompletions c (.complete (.connect stream phase n handler) r) →
      c.step cb (.complete (.connect stream phase n handler) r) ≠
        some (c.removeOp (.connect stream phase n handler)) := by
  have h := inv_of_reachable cb hr
  refine ⟨{ finished := ?_, answered := ?_, closed := ?_ }, ?_⟩
  · intro stream phase n handler r hop hover hok
    have hstate : c.state ≠ .connecting := fun hstate => hover ⟨hstate, hok hstate⟩
    rw [step, if_pos hop, complete_connect_of_ne cb (c := c.removeOp _)
      (fun hconn => absurd hconn hstate)]
  · exact fun n handler => answered_of_inv h
  · exact fun n => not_answered_of_closed h
  · intro stream phase n handler r hop hnot
    obtain ⟨hstate, -⟩ := Classical.not_imp.mp hnot
    obtain ⟨ws, hws⟩ := Option.ne_none_iff_exists'.mp (h.running hstate).1
    exact acts_of_connecting cb hstate hws hop r

/-- An attempt is closed, and its `async_resolve` completes, aborted, after the
next attempt has been accepted. The operation of that one completes last. -/
def staleResolve : List (Event Nat) :=
  [.connect (some 1), .close none, .connect (some 2),
    .complete (.connect 1 .resolve 1 (some 1)) { ec := some .operationAborted },
    .complete (.connect 2 .resolve 2 (some 2)) {}]

/-- The handler of the first attempt, which was closed, is called, and that of
the second attempt never is. -/
theorem not_isolated_staleResolve :
    ¬ ∀ c : Client Nat Unit, Reachable (system .silent) anyStep c →
      Isolated .silent anyStep c := by
  intro hall
  have hsome : ((run (system (.silent : Callbacks Nat Unit)) anyStep (create () 0)
      staleResolve).map fun c => (c.attempts.log, c.attempts.phases 2)) =
      some ([.accepted 1 (some 1), .closed 1, .accepted 2 (some 2),
        .answered 1 1 (some (.asio .operationAborted))], []) := by
    decide
  obtain ⟨c, hrun, hc⟩ := Option.map_eq_some_iff.mp hsome
  obtain ⟨hlog, hnone⟩ := Prod.mk.inj hc
  have hr : Reachable (system (.silent : Callbacks Nat Unit)) anyStep c :=
    ⟨_, ⟨(), 0, rfl⟩, Path.of_run staleResolve hrun⟩
  obtain ⟨ec, hanswers, -⟩ := (hall c hr).answered 2 2 (by simp [hlog]) (by simp [hlog]) hnone
  rw [Attempts.answers, Attempts.history, hlog] at hanswers
  have hnil : [] = [(2, ec)] := hanswers
  cases hnil

/-- The same run with the first operation completing in time. -/
def timelyResolve : List (Event Nat) :=
  [.connect (some 1), .close none,
    .complete (.connect 1 .resolve 1 (some 1)) { ec := some .operationAborted },
    .connect (some 2), .complete (.connect 2 .resolve 2 (some 2)) {},
    .complete (.connect 2 .connect 2 (some 2)) { ec := some .operationAborted }]

/-- An attempt whose resolve comes back before the next `connect()` stays unanswered, and
the next one is answered. -/
theorem attempts_isolated_timelyResolve :
    ∃ c, run (system (.silent : Callbacks Nat Unit)) onlyCurrentCompletions (create () 0)
        timelyResolve = some c ∧
      c.attempts.answers 1 = [] ∧ ∃ ec, c.attempts.answers 2 = [(2, ec)] := by
  have hsome : ((run (system (.silent : Callbacks Nat Unit)) onlyCurrentCompletions (create () 0)
      timelyResolve).map fun c => (c.attempts.log, c.attempts.phases 2)) =
      some ([.accepted 1 (some 1), .closed 1, .accepted 2 (some 2),
        .answered 2 2 (some (.asio .operationAborted))], []) := by
    decide
  obtain ⟨c, hrun, hc⟩ := Option.map_eq_some_iff.mp hsome
  obtain ⟨hlog, hnone⟩ := Prod.mk.inj hc
  have hr : Reachable (system (.silent : Callbacks Nat Unit)) onlyCurrentCompletions c :=
    ⟨_, ⟨(), 0, rfl⟩, Path.of_run timelyResolve hrun⟩
  have h := (attempts_isolated .silent hr).1
  obtain ⟨ec, hanswers, -⟩ := h.answered 2 2 (by simp [hlog]) (by simp [hlog]) hnone
  exact ⟨c, hrun, h.closed 1 (by simp [hlog]), ec, hanswers⟩

end Client

end CppComponents.SecureWebSocketClient
