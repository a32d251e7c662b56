import CppComponents.ReconnectingSecureWebSocketClient.Separation

/-!
# The two state machines stay in step

`reconnect_state` and the state of the base client are two state machines, and
nothing but the connect results and `on_unexpected_disconnect()` keeps the one
informed of the other. `Lockstep` says how they go together: a base attempt is
the attempt of the current generation, its ready callback has run, and the one
machine is `connected` exactly when the other is.

Two kinds of steps break this. A completion of an earlier attempt can end the
base attempt with a result the session ignores, and a ready callback that is
invoked twice while its attempt is connecting gets an error for a base attempt
that goes on. `inTime` excludes both; then `Lockstep` holds in every run.
-/

namespace CppComponents.ReconnectingSecureWebSocketClient

open CppComponents.SecureWebSocketClient CppComponents.Transition

variable {U : Type} (u : UserCallbacks U)

/-! ## The status of a session -/

/-- What the two machines have to agree on: the state and the generation of a
session, and for which generations a ready callback was handed out and ran. -/
@[ext] structure Status where
  state : State
  generation : Nat
  prepare : Option HandlerId
  prepared : List Nat
  ready : List Nat

/-- The next attempt is started. -/
def Status.attempt (st : Status) : Status :=
  { st with
    state := .connecting
    generation := st.generation + 1
    prepared := st.prepared ++ st.prepare.toList.map fun _ => st.generation + 1 }

/-- `close()` -/
def Status.stop (st : Status) : Status :=
  { st with state := .idle, generation := st.generation + 1, prepare := none }

namespace Session

def status (s : Session) : Status where
  state := s.reconnectState
  generation := s.connectionGeneration
  prepare := s.prepareConnection
  prepared := s.prepared
  ready := s.ready

variable (s : Session)

@[simp] theorem status_withTimer (t : SteadyTimer Nat) : (s.withTimer t).status = s.status := rfl

@[simp] theorem status_answer (ec : Option ErrorCode) : (s.answer ec).status = s.status := by
  unfold answer
  split
  · rfl
  · simp [status, record, prepared, ready, SessionObs.asPrepared, SessionObs.asReady]

@[simp] theorem status_rejected (handler : Option HandlerId) :
    (s.rejected handler).status = s.status := by
  unfold rejected
  split
  · rfl
  · simp [status, record, prepared, ready, SessionObs.asPrepared, SessionObs.asReady]

theorem status_ready (generation : Nat) :
    (s.record (.ready generation)).status =
      { s.status with ready := s.status.ready ++ [generation] } := by
  simp [status, record, prepared, ready, SessionObs.asPrepared, SessionObs.asReady]

@[simp] theorem status_setInitialReconnectDelay (delay : Int) :
    (s.setInitialReconnectDelay delay).status = s.status := by
  unfold setInitialReconnectDelay
  simp only
  split <;> rfl

@[simp] theorem status_setMaxReconnectDelay (delay : Int) :
    (s.setMaxReconnectDelay delay).status = s.status := rfl

/-- The next attempt is that of the status. -/
theorem status_startAttempt : s.startAttempt.status = s.status.attempt := by
  unfold startAttempt
  cases hprepare : s.prepareConnection with
  | none =>
    simp [status, nextGeneration, Status.attempt, hprepare, prepared, ready]
  | some h =>
    simp [status, nextGeneration, Status.attempt, hprepare, record, prepared, ready,
      SessionObs.asPrepared, SessionObs.asReady]

theorem status_opened (prepareConnection handler : Option HandlerId) :
    (s.opened prepareConnection handler).status =
      { s.status with prepare := prepareConnection } := rfl

theorem status_scheduleReconnect (hstate : s.reconnectState ≠ .idle) (now : Int) :
    (s.scheduleReconnect now).status = { s.status with state := .waitingReconnect } := by
  unfold scheduleReconnect
  rw [if_neg (by simp [s.isReconnectActive_iff.mpr hstate])]
  simp [status, setReconnectState, prepared, ready, SessionObs.asPrepared, SessionObs.asReady]

/-- The attempt of the current generation fails. -/
theorem status_connectResult_error (hstate : s.reconnectState = .connecting) (e : ErrorCode)
    (now : Int) :
    (s.connectResult s.connectionGeneration (some e) now).status =
      { s.status with state := .waitingReconnect } := by
  unfold connectResult
  rw [if_neg (by simp [hstate])]
  refine (status_scheduleReconnect _ ?_ now).trans ?_
  · simp [hstate]
  · rw [status_answer]

/-- The attempt of the current generation succeeds. -/
theorem status_connectResult_success (hstate : s.reconnectState = .connecting) (now : Int) :
    (s.connectResult s.connectionGeneration none now).status =
      { s.status with state := .connected } := by
  unfold connectResult
  rw [if_neg (by simp [hstate])]
  exact s.established.status_answer none

theorem status_disconnected (hstate : s.reconnectState = .connected) (now : Int) :
    (s.disconnected now).status = { s.status with state := .waitingReconnect } := by
  unfold disconnected
  rw [if_pos hstate]
  exact s.status_scheduleReconnect (by simp [hstate]) now

end Session

/-! ## Lockstep -/

structure Lockstep (v : Attempts Nat) (st : Status) : Prop where
  attempts : v.Inv
  notClosing : v.state ≠ .closing
  /-- a base attempt is the one of the current generation -/
  connecting : v.state = .connecting → st.state = .connecting ∧ st.generation ∈ st.ready ∧
    ∀ op ∈ v.phases v.current, op.2 = some st.generation
  connected : v.state = .connected ↔ st.state = .connected
  /-- without a base attempt the ready callback has not run -/
  unready : st.state = .connecting → v.state ≠ .connecting → st.generation ∉ st.ready
  prepared : ∀ g ∈ st.prepared, g ≤ st.generation
  ready : ∀ g ∈ st.ready, g ≤ st.generation

namespace Lockstep

variable {v : Attempts Nat} {st : Status}

/-- A session that has no base attempt and no connection starts its next
attempt. -/
theorem attempt (h : Lockstep v st) (hconnecting : v.state ≠ .connecting)
    (hconnected : v.state ≠ .connected) (prepare : Option HandlerId) :
    Lockstep v ({ st with prepare := prepare } : Status).attempt where
  attempts := h.attempts
  notClosing := h.notClosing
  connecting := fun hstate => absurd hstate hconnecting
  connected := ⟨fun hstate => absurd hstate hconnected, fun hstate => by cases hstate⟩
  unready := fun _ _ hmem => by
    have := h.ready _ hmem
    exact Nat.not_succ_le_self _ this
  prepared := fun g hg => by
    rcases List.mem_append.mp hg with hg | hg
    · exact (h.prepared g hg).trans (Nat.le_succ _)
    · obtain ⟨-, -, rfl⟩ := List.mem_map.mp hg
      exact Nat.le_refl _
  ready := fun g hg => (h.ready g hg).trans (Nat.le_succ _)

/-- `close()` ends both machines at once. -/
theorem close (h : Lockstep v st) : Lockstep v.close st.stop := by
  have hstate : v.close.state = .disconnected := by
    have hnot := h.notClosing
    unfold Attempts.close
    cases hv : v.state with
    | closing => exact absurd hv hnot
    | _ => simp [Attempts.enter, hv]
  exact {
    attempts := h.attempts.close
    notClosing := by simp [hstate]
    connecting := fun hc => by simp [hstate] at hc
    connected := by simp [hstate, Status.stop]
    unready := fun hc => by cases hc
    prepared := fun g hg => (h.prepared g hg).trans (Nat.le_succ _)
    ready := fun g hg => (h.ready g hg).trans (Nat.le_succ _) }

/-- A connection is lost. -/
theorem lose (h : Lockstep v st) (hstate : v.state = .connected) :
    Lockstep { v with state := .disconnected } { st with state := .waitingReconnect } where
  attempts := h.attempts.lose (by simp [hstate]) (by decide)
  notClosing := fun hc => by cases hc
  connecting := fun hc => by cases hc
  connected := by constructor <;> intro hc <;> cases hc
  unready := fun hc => by cases hc
  prepared := h.prepared
  ready := h.ready

/-- A ready callback runs that is not expected. -/
theorem ignore (h : Lockstep v st) {g : Nat} (hg : g ∈ st.prepared)
    (hstale : g ≠ st.generation ∨ st.state ≠ .connecting) :
    Lockstep v { st with ready := st.ready ++ [g] } where
  attempts := h.attempts
  notClosing := h.notClosing
  connecting := fun hstate => by
    obtain ⟨hconnecting, hready, hops⟩ := h.connecting hstate
    exact ⟨hconnecting, List.mem_append_left _ hready, hops⟩
  connected := h.connected
  unready := fun hstate hbase hmem => by
    rcases List.mem_append.mp hmem with hmem | hmem
    · exact h.unready hstate hbase hmem
    · rcases hstale with hne | hne
      · exact hne (List.mem_singleton.mp hmem).symm
      · exact hne hstate
  prepared := h.prepared
  ready := fun g' hg' => by
    rcases List.mem_append.mp hg' with hg' | hg'
    · exact h.ready g' hg'
    · rw [List.mem_singleton.mp hg']
      exact h.prepared g hg

/-- The ready callback of a session that has not had it: the base client is
disconnected. -/
theorem disconnected (h : Lockstep v st) (hstate : st.state = .connecting)
    (hready : st.generation ∉ st.ready) : v.state = .disconnected := by
  cases hv : v.state with
  | disconnected => rfl
  | connecting => exact absurd (h.connecting hv).2.1 hready
  | connected =>
    have := h.connected.mp hv
    simp [hstate] at this
  | closing => exact absurd hv h.notClosing

/-- The ready callback the session waits for runs. -/
theorem accept (h : Lockstep v st) (hstate : st.state = .connecting)
    (hready : st.generation ∉ st.ready) :
    Lockstep (v.accept (some st.generation)) { st with ready := st.ready ++ [st.generation] } := by
  have hdisconnected := h.disconnected hstate hready
  have hnew := (h.attempts.fresh (v.current + 1) (.inr (Nat.lt_succ_self _))).2
  exact {
    attempts := h.attempts.accept hdisconnected _
    notClosing := fun hc => by cases hc
    connecting := fun _ => by
      refine ⟨hstate, by simp, fun op hop => ?_⟩
      simp only [Attempts.accept, if_true, hnew, List.nil_append, List.mem_singleton] at hop
      exact congrArg Prod.snd hop
    connected := by
      constructor
      · intro hc
        cases hc
      · intro hc
        simp [hstate] at hc
    unready := fun _ hbase => absurd rfl hbase
    prepared := h.prepared
    ready := fun g hg' => by
      rcases List.mem_append.mp hg' with hg' | hg'
      · exact h.ready g hg'
      · exact Nat.le_of_eq (List.mem_singleton.mp hg') }

/-! ## Completions -/

variable {rest : Nat → List (Phase × Option Nat)}

/-- The completion of an operation of an attempt that is over. -/
theorem complete (h : Lockstep v st) (hstate : v.state ≠ .connecting)
    (hfresh : ∀ m, v.phases m = [] → rest m = []) : Lockstep (v.complete rest) st where
  attempts := h.attempts.complete rest hfresh fun hc => absurd hc hstate
  notClosing := h.notClosing
  connecting := fun hc => absurd hc hstate
  connected := h.connected
  unready := h.unready
  prepared := h.prepared
  ready := h.ready

/-- The base attempt fails. -/
theorem failed (h : Lockstep v st) {os : List (AttemptObs Nat)}
    (hinv : ((v.complete rest).enter .disconnected os).Inv) :
    Lockstep ((v.complete rest).enter .disconnected os) { st with state := .waitingReconnect } where
  attempts := hinv
  notClosing := fun hc => by cases hc
  connecting := fun hc => by cases hc
  connected := by constructor <;> intro hc <;> cases hc
  unready := fun hc => by cases hc
  prepared := h.prepared
  ready := h.ready

/-- The base attempt goes on. -/
theorem started (h : Lockstep v st) (hstate : v.state = .connecting) {next : Phase}
    (hrest : rest v.current = [])
    (hinv : ((v.complete rest).start v.current next (some st.generation)).Inv) :
    Lockstep ((v.complete rest).start v.current next (some st.generation)) st where
  attempts := hinv
  notClosing := h.notClosing
  connecting := fun _ => by
    obtain ⟨hconnecting, hready, -⟩ := h.connecting hstate
    refine ⟨hconnecting, hready, fun op hop => ?_⟩
    simp only [Attempts.start, Attempts.complete, if_true, hrest, List.nil_append,
      List.mem_singleton] at hop
    exact congrArg Prod.snd hop
  connected := h.connected
  unready := fun _ hbase => absurd hstate hbase
  prepared := h.prepared
  ready := h.ready

/-- The base attempt is connected. -/
theorem established (h : Lockstep v st) {os : List (AttemptObs Nat)}
    (hinv : ((v.complete rest).enter .connected os).Inv) :
    Lockstep ((v.complete rest).enter .connected os) { st with state := .connected } where
  attempts := hinv
  notClosing := fun hc => by cases hc
  connecting := fun hc => by cases hc
  connected := ⟨fun _ => rfl, fun _ => rfl⟩
  unready := fun hc => by cases hc
  prepared := h.prepared
  ready := h.ready

end Lockstep

/-! ## Runs -/

/-- While a base attempt is running, only its own operations complete. -/
def timely : Guard (ReconnectingClient U) Event
  | c, .base e => Client.onlyCurrentCompletions c e
  | _, _ => True

/-- A ready callback does not run again while its attempt is connecting. -/
def readyOnce : Guard (ReconnectingClient U) Event
  | c, .ready generation _ _ _ =>
    generation ∈ c.owner.session.ready →
      generation ≠ c.owner.session.connectionGeneration ∨
        c.owner.session.reconnectState ≠ .connecting
  | _, _ => True

instance (c : ReconnectingClient U) (e : Event) : Decidable (timely c e) :=
  match e with
  | .base e => inferInstanceAs (Decidable (Client.onlyCurrentCompletions c e))
  | .connect _ _ | .close _ | .setInitialReconnectDelay _ | .setMaxReconnectDelay _
  | .ready _ _ _ _ | .fireReconnectTimer _ | .reconnectTimer _ => isTrue trivial

instance (c : ReconnectingClient U) (e : Event) : Decidable (readyOnce c e) :=
  match e with
  | .ready _ _ _ _ => inferInstanceAs (Decidable (_ → _ ∨ _))
  | .connect _ _ | .close _ | .setInitialReconnectDelay _ | .setMaxReconnectDelay _
  | .fireReconnectTimer _ | .reconnectTimer _ | .base _ => isTrue trivial

/-- The two machines of a client are in step. -/
def View.InStep (v : View) : Prop := Lockstep v.attempts v.session.status

/-- A step of the base client moves both machines or neither, if only the operations of
the running attempt complete. -/
theorem inStep_baseStep {v v' : View} {e : SecureWebSocketClient.Event Nat} (h : v.InStep)
    (hok : ∀ stream phase n handler r, e = .complete (.connect stream phase n handler) r →
      v.attempts.state = .connecting → n = v.attempts.current)
    (hstep : v.BaseStep e v') : v'.InStep := by
  cases hstep with
  | same => exact h
  | lost now _ hstate =>
    have hconnected : v.session.reconnectState = .connected := h.connected.mp hstate
    have hlost := h.lose hstate
    rw [← v.session.status_disconnected hconnected now] at hlost
    exact hlost
  | ignored stream phase n handler r rest _ hcompletes hidle =>
    have hstate : v.attempts.state ≠ .connecting :=
      fun hstate => (h.attempts.running hstate).1 (hidle hstate)
    exact h.complete hstate hcompletes.fresh
  -- the completion is of the running attempt, which is the one the session made
  | progress stream phase n handler r rest v' he hcompletes hstate hprogress =>
    obtain rfl : n = v.attempts.current := hok _ _ _ _ _ he hstate
    obtain ⟨hconnecting, -, hops⟩ := h.connecting hstate
    obtain rfl : handler = some v.session.connectionGeneration := hops _ hcompletes.mem
    have hconnecting : v.session.reconnectState = .connecting := hconnecting
    have hinv : ∀ v', Attempts.Moves _ _ _ v' → v'.Inv :=
      fun _ => h.attempts.progress hstate hcompletes
    cases hprogress with
    | failed ec now =>
      have hfailed := h.failed (hinv _ (.inl ⟨ec, rfl⟩))
      rw [← v.session.status_connectResult_error hconnecting ec now] at hfailed
      exact hfailed
    | started next =>
      obtain ⟨-, -, phase', handler', hphases, -⟩ := h.attempts.running hstate
      have hmem := hcompletes.mem
      rw [hphases] at hmem
      have hlast := hcompletes.last (by rw [hphases, List.mem_singleton.mp hmem])
      exact h.started hstate hlast (hinv _ (.inr (.inl ⟨next, rfl⟩)))
    | connected now =>
      have hestablished := h.established (hinv _ (.inr (.inr rfl)))
      rw [← v.session.status_connectResult_success hconnecting now] at hestablished
      exact hestablished

/-- A ready callback starts the base attempt of its generation. -/
theorem inStep_ready {v : View} (h : v.InStep) {generation : Nat}
    (hprepared : generation ∈ v.session.prepared)
    (honce : generation ∈ v.session.ready → generation ≠ v.session.connectionGeneration ∨
      v.session.reconnectState ≠ .connecting)
    (host port resource : String) (now : Int) :
    (View.ready { v with session := v.session.record (.ready generation) } generation host port
      resource now).InStep := by
  let v₁ : View := { v with session := v.session.record (.ready generation) }
  show (v₁.ready generation host port resource now).InStep
  by_cases hstale : generation ≠ v.session.connectionGeneration ∨
      v.session.reconnectState ≠ .connecting
  · have hignore := h.ignore (g := generation) hprepared hstale
    rw [← v.session.status_ready] at hignore
    rw [View.ready_of_stale (v := v₁) host port resource now hstale]
    exact hignore
  · obtain ⟨hgeneration, hstate⟩ := not_or.mp hstale
    obtain rfl : generation = v.session.connectionGeneration := Decidable.not_not.mp hgeneration
    have hstate : v.session.reconnectState = .connecting := Decidable.not_not.mp hstate
    -- the callback is called for the first time, so no attempt has been started for it
    have hready : v.session.connectionGeneration ∉ v.session.ready :=
      fun hmem => hstale (honce hmem)
    have haccept := h.accept hstate hready
    rw [← v.session.status_ready] at haccept
    have hview : v₁.ready v.session.connectionGeneration host port resource now = _ :=
      View.ready_of_disconnected host port resource now rfl hstate (h.disconnected hstate hready)
    rw [hview]
    exact haccept

/-- One case for each event, under the two assumptions of the claim on the order of
events. -/
theorem inStep_step {c c' : ReconnectingClient U} {e : Event} (h : (view c).InStep)
    (htimely : timely c e) (honce : readyOnce c e) (hstep : step u c e = some c') :
    (view c').InStep := by
  have hsame : ∀ s : Session, s.status = c.owner.session.status →
      ({ view c with session := s } : View).InStep := by
    intro s hs
    rw [View.InStep, hs]
    exact h
  cases step_spec hstep with
  | connect prepareConnection handler =>
    rw [view_connect]
    split
    · exact hsame _ (c.owner.session.status_rejected handler)
    · rename_i hidle
      have hidle : (view c).session.status.state = .idle := Decidable.not_not.mp hidle
      -- an idle session has no base attempt and no connection
      have hconnecting : c.attempts.state ≠ .connecting := fun hbase => by
        have := (h.connecting hbase).1
        simp [hidle] at this
      have hconnected : c.attempts.state ≠ .connected := fun hbase => by
        have := h.connected.mp hbase
        simp [hidle] at this
      rw [View.InStep, Session.status_startAttempt, Session.status_opened]
      exact h.attempt hconnecting hconnected prepareConnection
  | close handler =>
    rw [view_close]
    exact h.close
  | setInitialReconnectDelay delay =>
    exact hsame _ (c.owner.session.status_setInitialReconnectDelay delay)
  | setMaxReconnectDelay delay =>
    exact hsame _ (c.owner.session.status_setMaxReconnectDelay delay)
  | ready generation host port resource hprepared =>
    rw [view_handleConnectionReady]
    exact inStep_ready h hprepared honce host port resource c.now
  | fireReconnectTimer w t hfire =>
    exact hsame _ rfl
  | reconnectTimer w t hdeliver =>
    rw [view_timer]
    unfold Session.timer
    split
    · exact hsame _ rfl
    · rename_i hcurrent
      have hwaiting : (view c).session.status.state = .waitingReconnect :=
        Decidable.not_not.mp (not_or.mp (not_or.mp hcurrent).2).2
      have hconnecting : c.attempts.state ≠ .connecting := fun hbase => by
        have := (h.connecting hbase).1
        simp [hwaiting] at this
      have hconnected : c.attempts.state ≠ .connected := fun hbase => by
        have := h.connected.mp hbase
        simp [hwaiting] at this
      rw [View.InStep, Session.status_startAttempt, Session.status_withTimer]
      exact h.attempt hconnecting hconnected _
  | base e c' hinherited hbase =>
    refine inStep_baseStep h ?_ (baseStep_of_step u hstep)
    rintro stream phase n handler r rfl hstate
    exact htimely hstate

/-- Before `connect()` both are idle. -/
theorem inStep_init {c : ReconnectingClient U} (hinit : (system u).init c) :
    (view c).InStep := by
  obtain ⟨user, now, rfl⟩ := hinit
  exact {
    attempts := Client.inv_create _ _
    notClosing := fun hc => by cases hc
    connecting := fun hc => by cases hc
    connected := by constructor <;> intro hc <;> cases hc
    unready := fun hc => by cases hc
    prepared := fun g hg => by cases hg
    ready := fun g hg => by cases hg }

end CppComponents.ReconnectingSecureWebSocketClient
