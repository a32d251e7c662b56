import CppComponents.ReconnectingSecureWebSocketClient.Lockstep

/-!
# A ready callback counts once

`handle_connection_ready()` checks that its generation is the current one and
that the session is connecting. Both stay so from the first time it runs until
the attempt ends. So a second invocation in between is taken for a first one: it
replaces the target, is rejected by `do_connect()`, and the rejection is taken
for the result of the attempt (`ready_acts`). At any other time an invocation
does nothing.

Without `close()` no operation outlives its base attempt (`Attempts.Alone`), so
in runs in which no ready callback runs twice in one attempt the two state
machines stay in step.
-/

namespace CppComponents.ReconnectingSecureWebSocketClient

open CppComponents.SecureWebSocketClient CppComponents.Transition

variable {U : Type} (u : UserCallbacks U)

/-! ## What an invocation does -/

/-- The invocation of the ready callback of `generation` does nothing. -/
def NoEffect (c : ReconnectingClient U) (generation : Nat) (host port resource : String) : Prop :=
  step u c (.ready generation host port resource) =
    some (setSession c (c.owner.session.record (.ready generation)))

/-- The attempt of `generation` is over. -/
def Over (c : ReconnectingClient U) (generation : Nat) : Prop :=
  generation ≠ c.owner.session.connectionGeneration ∨ c.owner.session.reconnectState ≠ .connecting

variable {c : ReconnectingClient U} {generation : Nat} (host port resource : String)

theorem noEffect_of_over (hprepared : generation ∈ c.owner.session.prepared)
    (hover : Over c generation) : NoEffect u c generation host port resource := by
  rw [NoEffect, step, if_pos hprepared]
  exact congrArg some (if_pos hover)

/-- While the attempt is connecting, every invocation starts a base attempt or is
taken for the result of the attempt. -/
theorem ready_acts (hprepared : generation ∈ c.owner.session.prepared)
    (hnot : ¬ Over c generation) : ¬ NoEffect u c generation host port resource := by
  intro hnone
  obtain ⟨hgeneration, hstate⟩ := not_or.mp hnot
  have hgeneration : generation = c.owner.session.connectionGeneration :=
    Decidable.not_not.mp hgeneration
  have hstate : c.owner.session.reconnectState = .connecting := Decidable.not_not.mp hstate
  rw [NoEffect, step, if_pos hprepared] at hnone
  let c₁ := setSession c (c.owner.session.record (.ready generation))
  have hview : (view c₁).ready generation host port resource c₁.now = view c₁ :=
    (view_handleConnectionReady u c₁ generation host port resource).symm.trans
      (congrArg view (Option.some.inj hnone))
  by_cases hbase : c₁.state = .disconnected
  · rw [View.ready_of_disconnected host port resource c₁.now hgeneration hstate hbase] at hview
    have hconnecting : ConnectionState.connecting = c₁.state :=
      congrArg (fun v : View => v.attempts.state) hview
    rw [hbase] at hconnecting
    cases hconnecting
  · rw [View.ready_of_busy host port resource c₁.now hgeneration hstate hbase] at hview
    have hresult := c₁.owner.session.status_connectResult_error hstate
      (.errc .alreadyConnected) c₁.now
    have hwaiting : c₁.owner.session.reconnectState = .waitingReconnect := by
      have hsession : c₁.owner.session.connectResult generation
          (some (.errc .alreadyConnected)) c₁.now = c₁.owner.session :=
        congrArg View.session hview
      rw [hgeneration] at hsession
      have hstatus := congrArg Session.status hsession
      exact congrArg Status.state (hstatus.symm.trans hresult)
    have hconnecting : c₁.owner.session.reconnectState = .connecting := hstate
    rw [hwaiting] at hconnecting
    cases hconnecting

/-! ## Runs without `close()` -/

/-- No `close()`. -/
def noClose : Guard (ReconnectingClient U) Event
  | _, .close _ => False
  | _, _ => True

instance (c : ReconnectingClient U) (e : Event) : Decidable (noClose c e) :=
  match e with
  | .close _ => isFalse id
  | .connect _ _ | .setInitialReconnectDelay _ | .setMaxReconnectDelay _ | .ready _ _ _ _
  | .fireReconnectTimer _ | .reconnectTimer _ | .base _ => isTrue trivial

/-- No attempt but the running one has an operation outstanding. -/
def Alone (v : Attempts Nat) : Prop := ∀ n, ¬ v.Running n → v.phases n = []

theorem Alone.complete {v : Attempts Nat} {rest : Nat → List (Phase × Option Nat)}
    (h : Alone v) (hfresh : ∀ m, v.phases m = [] → rest m = []) : Alone (v.complete rest) :=
  fun m hm => hfresh m (h m hm)

theorem Alone.accept {v : Attempts Nat} (h : Alone v) (hstate : v.state = .disconnected)
    (handler : Option Nat) : Alone (v.accept handler) := by
  intro n hn
  have hne : n ≠ v.current + 1 := fun heq => hn ⟨rfl, heq⟩
  have hold : v.phases n = [] := h n fun hrun => by
    have := hrun.1
    simp [hstate] at this
  simp [Attempts.accept, hne, hold]

/-- The running attempt ends with its last operation. -/
theorem Alone.ended {v : Attempts Nat} {rest : Nat → List (Phase × Option Nat)} (h : Alone v)
    (hother : ∀ m, m ≠ v.current → rest m = v.phases m) (hlast : rest v.current = []) (n : Nat) :
    rest n = [] := by
  by_cases hn : n = v.current
  · rw [hn, hlast]
  · rw [hother n hn]
    exact h n fun hrun => hn hrun.2

theorem alone_baseStep {v v' : View} {e : SecureWebSocketClient.Event Nat} (h : Alone v.attempts)
    (hinv : v.attempts.Inv) (hstep : v.BaseStep e v') : Alone v'.attempts := by
  cases hstep with
  | same => exact h
  | lost now _ hstate =>
    intro n _
    exact h n fun hrun => by
      have := hrun.1
      simp [hstate] at this
  | ignored stream phase n handler r rest _ hcompletes =>
    exact h.complete hcompletes.fresh
  | progress stream phase n handler r rest v' _ hcompletes hstate hprogress =>
    have hrun : v.attempts.Running n := by
      by_contra hnot
      have hmem := hcompletes.mem
      rw [h n hnot] at hmem
      cases hmem
    obtain rfl : n = v.attempts.current := hrun.2
    obtain ⟨-, -, phase', handler', hphases, -⟩ := hinv.running hstate
    have hmem := hcompletes.mem
    rw [hphases] at hmem
    have hlast := hcompletes.last (by rw [hphases, List.mem_singleton.mp hmem])
    have hnone := h.ended hcompletes.other hlast
    cases hprogress with
    | failed => exact fun m _ => hnone m
    | started next =>
      intro m hm
      have hne : m ≠ v.attempts.current := fun heq => hm ⟨hstate, heq⟩
      simp [Attempts.start, Attempts.complete, hne, hnone m]
    | connected => exact fun m _ => hnone m

theorem alone_ready {v : View} (h : Alone v.attempts) (generation : Nat)
    (host port resource : String) (now : Int) :
    Alone (v.ready generation host port resource now).attempts := by
  unfold View.ready
  split
  · exact h
  · simp only
    split
    · rename_i hbase
      exact h.accept hbase _
    · exact h

theorem alone_step {c c' : ReconnectingClient U} {e : Event} (h : Alone c.attempts)
    (hinv : c.attempts.Inv) (hok : noClose c e) (hstep : step u c e = some c') :
    Alone c'.attempts := by
  show Alone (view c').attempts
  cases step_spec hstep with
  | connect prepareConnection handler =>
    rw [view_connect]
    exact h
  | close handler => cases hok
  | setInitialReconnectDelay | setMaxReconnectDelay => exact h
  | ready generation host port resource hprepared =>
    rw [view_handleConnectionReady]
    have hready :
        Alone (view (setSession c (c.owner.session.record (.ready generation)))).attempts :=
      h
    exact alone_ready hready generation host port resource c.now
  | fireReconnectTimer w t hfire =>
    exact h
  | reconnectTimer w t hdeliver =>
    rw [view_timer]
    exact h
  | base e c' hinherited hbase => exact alone_baseStep h hinv (baseStep_of_step u hstep)

/-- An operation that is outstanding while a base attempt is running is its own. -/
theorem timely_of_alone {c c' : ReconnectingClient U} {e : Event} (h : Alone c.attempts)
    (hstep : step u c e = some c') : timely c e := by
  cases e with
  | base e =>
    cases e with
    | complete op r =>
      cases op with
      | connect stream phase n handler =>
        intro _
        simp only [step, isInherited, if_true, Client.step] at hstep
        split at hstep
        · rename_i hop
          have hmem := (Client.completes_removeOp hop).mem
          by_contra hne
          rw [h n fun hrun => hne hrun.2] at hmem
          cases hmem
        · cases hstep
      | _ => trivial
    | _ => trivial
  | _ => trivial

/-- Without `close()`, and with ready callbacks that count once, the two state
machines stay in step. -/
theorem inStep_of_noClose {c : ReconnectingClient U}
    (hr : Reachable (system u) (readyOnce.and noClose) c) : (view c).InStep := by
  have hinv : (view c).InStep ∧ Alone c.attempts := by
    refine hr.invariant (I := fun c => (view c).InStep ∧ Alone c.attempts) ?_ ?_
    · intro c hinit
      refine ⟨inStep_init u hinit, ?_⟩
      obtain ⟨user, now, rfl⟩ := hinit
      exact fun _ _ => rfl
    · rintro c e c' ⟨hinStep, halone⟩ ⟨honce, hclose⟩ he
      exact ⟨inStep_step u hinStep (timely_of_alone u halone he) honce he,
        alone_step u halone hinStep.attempts hclose he⟩
  exact hinv.1

/-! ## A ready callback counts once -/

/-- An invocation after the first one of its attempt, or after its attempt, does
nothing, as far as `ok` allows it. -/
structure CountsOnce (ok : Guard (ReconnectingClient U) Event) (c : ReconnectingClient U) :
    Prop where
  again : ∀ generation host port resource, generation ∈ c.owner.session.prepared →
    generation ∈ c.owner.session.ready → ok c (.ready generation host port resource) →
    NoEffect u c generation host port resource
  late : ∀ generation host port resource, generation ∈ c.owner.session.prepared →
    Over c generation → NoEffect u c generation host port resource

/-- **A ready callback counts once**, in every state, unless it runs again while its
attempt is connecting. In every run in which none does, and without `close()`,
the session is connected exactly when the base client is. The restriction is
needed: an invocation that it excludes always has an effect. -/
theorem ready_counts_once (c : ReconnectingClient U) :
    CountsOnce u readyOnce c ∧
    (Reachable (system u) (readyOnce.and noClose) c →
      (c.owner.session.reconnectState = .connected ↔ c.state = .connected)) ∧
    ∀ generation host port resource, generation ∈ c.owner.session.prepared →
      ¬ readyOnce c (.ready generation host port resource) →
      ¬ NoEffect u c generation host port resource := by
  refine ⟨{ again := ?_, late := ?_ }, ?_, ?_⟩
  · intro generation host port resource hprepared hready hok
    exact noEffect_of_over u host port resource hprepared (hok hready)
  · intro generation host port resource hprepared hover
    exact noEffect_of_over u host port resource hprepared hover
  · intro hclose
    exact (inStep_of_noClose u hclose).connected.symm
  · intro generation host port resource hprepared hnot
    exact ready_acts u host port resource hprepared (Classical.not_imp.mp hnot).2

/-- The ready callback is invoked twice, and the base attempt succeeds. -/
def readyTwice : List Event :=
  [.connect (some 1) (some 2), .ready 1 "host" "443" "/", .ready 1 "other" "443" "/",
    .base (.complete (.connect 1 .resolve 1 (some 1)) {}),
    .base (.complete (.connect 1 .connect 1 (some 1)) {}),
    .base (.complete (.connect 1 .sslHandshake 1 (some 1)) {}),
    .base (.complete (.connect 1 .websocketHandshake 1 (some 1)) {})]

/-- The target is the second one, the user is told of an error, and the base
client is connected while the session waits to reconnect. -/
theorem not_countsOnce_readyTwice :
    ¬ ∀ c : ReconnectingClient Unit, Reachable (system .silent) noClose c →
      CountsOnce .silent anyStep c ∧
      (c.owner.session.reconnectState = .connected ↔ c.state = .connected) := by
  intro hall
  have hsome : ((run (system (.silent : UserCallbacks Unit)) noClose
      (Client.create ⟨Session.create 0, ()⟩ 0) readyTwice).map fun c =>
      (c.host, c.owner.session.calls, c.owner.session.reconnectState, c.state)) =
      some ("other", [.prepared 1 1, .answered 2 (some (.errc .alreadyConnected))],
        .waitingReconnect, .connected) := by
    decide
  obtain ⟨c, hrun, hc⟩ := Option.map_eq_some_iff.mp hsome
  simp only [Prod.mk.injEq] at hc
  obtain ⟨-, -, hstate, hbase⟩ := hc
  have hiff := (hall c ⟨_, ⟨(), 0, rfl⟩, Path.of_run readyTwice hrun⟩).2
  have hconnected := hiff.mpr hbase
  rw [hstate] at hconnected
  cases hconnected

/-- The ready callback is invoked again once the session is connected. -/
theorem ready_counts_once_connected :
    ∃ c : ReconnectingClient Unit,
      run (system .silent) (readyOnce.and noClose) (Client.create ⟨Session.create 0, ()⟩ 0)
        (readyTwice.eraseIdx 2) = some c ∧
      c.state = .connected ∧
      NoEffect .silent c 1 "other" "443" "/" := by
  have hsome : ((run (system (.silent : UserCallbacks Unit)) (readyOnce.and noClose)
      (Client.create ⟨Session.create 0, ()⟩ 0) (readyTwice.eraseIdx 2)).map fun c =>
      (c.owner.session.reconnectState, c.owner.session.prepared, c.owner.session.ready)) =
      some (.connected, [1], [1]) := by
    decide
  obtain ⟨c, hrun, hc⟩ := Option.map_eq_some_iff.mp hsome
  simp only [Prod.mk.injEq] at hc
  obtain ⟨hstate, hprepared, hready⟩ := hc
  obtain ⟨hcounts, hconnected, -⟩ := ready_counts_once .silent c
  have hr : Reachable (system (.silent : UserCallbacks Unit)) (readyOnce.and noClose) c :=
    ⟨_, ⟨(), 0, rfl⟩, Path.of_run (readyTwice.eraseIdx 2) hrun⟩
  refine ⟨c, hrun, (hconnected hr).mp hstate, hcounts.again 1 _ _ _ ?_ ?_ ?_⟩
  · rw [hprepared]
    decide
  · rw [hready]
    decide
  · exact fun _ => .inr (by simp [hstate])

end CppComponents.ReconnectingSecureWebSocketClient
