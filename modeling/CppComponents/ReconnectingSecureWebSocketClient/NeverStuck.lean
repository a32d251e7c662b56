import CppComponents.ReconnectingSecureWebSocketClient.Lockstep

/-!
# No session is stuck

A session that is active reports so to its user, so something must be left that
moves it on: the ready callback that has not run, an operation of the base
attempt, a wait of the reconnect timer, or the connection. `Moving` says this.
It holds in every run in which no completion of an earlier base attempt is
taken for one of the running attempt. If one is, the base attempt ends with a
result of an old generation, and the session goes on waiting for its own.
-/

namespace CppComponents.ReconnectingSecureWebSocketClient

open CppComponents.SecureWebSocketClient CppComponents.Transition

variable {U : Type} (u : UserCallbacks U)

/-- What the user promises: a prepare callback that is not empty, and ready
callbacks that are invoked at most once. -/
def promised : Guard (ReconnectingClient U) Event
  | _, .connect prepareConnection _ => prepareConnection ≠ none
  | c, .ready generation _ _ _ => generation ∉ c.owner.session.ready
  | _, _ => True

instance (c : ReconnectingClient U) (e : Event) : Decidable (promised c e) :=
  match e with
  | .connect _ _ => inferInstanceAs (Decidable (_ ≠ _))
  | .ready _ _ _ _ => inferInstanceAs (Decidable (_ ∉ _))
  | .close _ | .setInitialReconnectDelay _ | .setMaxReconnectDelay _
  | .fireReconnectTimer _ | .reconnectTimer _ | .base _ => isTrue trivial

/-- Something is left that moves the session on. -/
structure Moving (c : ReconnectingClient U) : Prop where
  /-- the ready callback, or an operation of the base attempt -/
  connecting : c.owner.session.reconnectState = .connecting →
    (c.owner.session.connectionGeneration ∈ c.owner.session.prepared ∧
      c.owner.session.connectionGeneration ∉ c.owner.session.ready) ∨
    (c.state = .connecting ∧ ∃ stream phase,
      .connect stream phase c.attempt (some c.owner.session.connectionGeneration) ∈ c.ops)
  waiting : c.owner.session.reconnectState = .waitingReconnect →
    ∃ w ∈ c.owner.session.reconnectTimer.live, w.tag = c.owner.session.connectionGeneration
  connected : c.owner.session.reconnectState = .connected → c.state = .connected

/-! ## Ready callbacks are handed out -/

/-- An active session can prepare its attempts, and has prepared the one it is
connecting. -/
structure Prompted (st : Status) : Prop where
  prepare : st.state ≠ .idle → st.prepare ≠ none
  handed : st.state = .connecting → st.generation ∈ st.prepared

/-- An attempt or a connection ends, or the attempt succeeds. -/
def Status.Advances (st st' : Status) : Prop :=
  st' = st ∨ st.state ≠ .idle ∧ ∃ state, state ≠ .connecting ∧ st' = { st with state := state }

theorem Prompted.advance {st st' : Status} (h : Prompted st) (hadvances : st.Advances st') :
    Prompted st' := by
  rcases hadvances with rfl | ⟨hactive, state, hstate, rfl⟩
  · exact h
  · exact ⟨fun _ => h.prepare hactive, fun hconnecting => absurd hconnecting hstate⟩

theorem Prompted.attempt {st : Status} (hprepare : st.prepare ≠ none) : Prompted st.attempt := by
  obtain ⟨h, hsome⟩ := Option.ne_none_iff_exists'.mp hprepare
  exact ⟨fun _ => hprepare, fun _ => by simp [Status.attempt, hsome]⟩

namespace Session

theorem advances_disconnected (s : Session) (now : Int) :
    s.status.Advances (s.disconnected now).status := by
  by_cases hstate : s.reconnectState = .connected
  · refine .inr ⟨by simp [status, hstate], .waitingReconnect, by decide, ?_⟩
    exact s.status_disconnected hstate now
  · exact .inl (congrArg status (if_neg hstate))

theorem advances_connectResult (s : Session) (generation : Nat) (ec : Option ErrorCode)
    (now : Int) : s.status.Advances (s.connectResult generation ec now).status := by
  by_cases hstale : generation ≠ s.connectionGeneration ∨ s.reconnectState ≠ .connecting
  · exact .inl (congrArg status (s.connectResult_of_stale hstale ec now))
  · obtain ⟨hgeneration, hstate⟩ := not_or.mp hstale
    obtain rfl : generation = s.connectionGeneration := Decidable.not_not.mp hgeneration
    have hstate : s.reconnectState = .connecting := Decidable.not_not.mp hstate
    have hactive : s.status.state ≠ .idle := by simp [status, hstate]
    cases ec with
    | some e => exact .inr ⟨hactive, _, by decide, s.status_connectResult_error hstate e now⟩
    | none => exact .inr ⟨hactive, _, by decide, s.status_connectResult_success hstate now⟩

theorem advances_result (s : Session) (handler : Option Nat) (ec : Option ErrorCode) (now : Int) :
    s.status.Advances (s.result handler ec now).status := by
  cases handler with
  | none => exact .inl rfl
  | some generation => exact s.advances_connectResult generation ec now

end Session

theorem prompted_baseStep {v v' : View} {e : SecureWebSocketClient.Event Nat}
    (h : Prompted v.session.status) (hstep : v.BaseStep e v') : Prompted v'.session.status := by
  cases hstep with
  | same => exact h
  | lost now => exact h.advance (v.session.advances_disconnected now)
  | ignored => exact h
  | progress stream phase n handler r rest v' _ _ _ hprogress =>
    cases hprogress with
    | failed ec now => exact h.advance (v.session.advances_result handler _ now)
    | started => exact h
    | connected now => exact h.advance (v.session.advances_result handler none now)

theorem prompted_ready {v : View} (h : Prompted v.session.status) (generation : Nat)
    (host port resource : String) (now : Int) :
    Prompted (v.ready generation host port resource now).session.status := by
  unfold View.ready
  split
  · exact h
  · simp only
    split
    · exact h
    · exact h.advance (v.session.advances_connectResult generation _ now)

theorem prompted_step {c c' : ReconnectingClient U} {e : Event}
    (h : Prompted c.owner.session.status) (hok : promised c e) (hstep : step u c e = some c') :
    Prompted c'.owner.session.status := by
  show Prompted (view c').session.status
  cases step_spec hstep with
  | connect prepareConnection handler =>
    rw [view_connect]
    split
    · simp only [Session.status_rejected]
      exact h
    · simp only [Session.status_startAttempt, Session.status_opened]
      exact .attempt hok
  | close handler =>
    rw [view_close]
    exact ⟨fun hactive => absurd rfl hactive, fun hconnecting => by cases hconnecting⟩
  | setInitialReconnectDelay delay =>
    simpa [view, setSession] using h
  | setMaxReconnectDelay delay => exact h
  | ready generation host port resource hprepared =>
    rw [view_handleConnectionReady]
    refine prompted_ready ?_ ..
    simp only [view, setSession, Session.status_ready]
    exact ⟨h.prepare, h.handed⟩
  | fireReconnectTimer w t hfire =>
    exact h
  | reconnectTimer w t hdeliver =>
    rw [view_timer]
    unfold Session.timer
    split
    · exact h
    · rename_i hcurrent
      have hwaiting : c.owner.session.reconnectState = .waitingReconnect :=
        Decidable.not_not.mp (not_or.mp (not_or.mp hcurrent).2).2
      simp only [Session.status_startAttempt, Session.status_withTimer]
      exact .attempt (h.prepare (by simp [Session.status, hwaiting]))
  | base e c' hinherited hbase => exact prompted_baseStep h (baseStep_of_step u hstep)

/-! ## Sessions move on -/

theorem moving_of_inStep {c : ReconnectingClient U} (hstep : (view c).InStep)
    (htimed : c.owner.session.Timed) (hprompted : Prompted c.owner.session.status) : Moving c := by
  constructor
  · intro hstate
    by_cases hbase : c.state = .connecting
    · right
      obtain ⟨-, -, hops⟩ := hstep.connecting hbase
      obtain ⟨-, -, phase, handler, hphases, -⟩ := hstep.attempts.running hbase
      have hmem : (phase, handler) ∈ c.attempts.phases c.attempt :=
        hphases ▸ List.mem_singleton_self _
      obtain rfl : handler = some c.owner.session.connectionGeneration := hops _ hmem
      obtain ⟨op, hop, hphase⟩ := List.mem_filterMap.mp hmem
      cases op with
      | connect stream phase' n handler' =>
        simp only [Op.asPhase] at hphase
        split at hphase
        · rename_i hn
          cases hphase
          exact ⟨hbase, stream, phase, hn ▸ hop⟩
        · cases hphase
      | _ => cases hphase
    · exact .inl ⟨hprompted.handed hstate, hstep.unready hstate hbase⟩
  · intro hstate
    obtain ⟨w, hw⟩ := htimed.waiting hstate
    have hmem : w ∈ c.owner.session.currentWaits := hw ▸ List.mem_singleton_self _
    obtain ⟨hlive, htag⟩ := List.mem_filter.mp hmem
    exact ⟨w, hlive, by simpa using htag⟩
  · exact hstep.connected.mpr

/-- **No session is stuck** in every run in which, while a base attempt is
running, only its own operations complete. -/
theorem never_stuck {c : ReconnectingClient U}
    (hr : Reachable (system u) (promised.and timely) c) : Moving c := by
  have hinv : (view c).InStep ∧ Prompted c.owner.session.status := by
    refine hr.invariant (I := fun c => (view c).InStep ∧ Prompted c.owner.session.status) ?_ ?_
    · intro c hinit
      refine ⟨inStep_init u hinit, ?_⟩
      obtain ⟨user, now, rfl⟩ := hinit
      exact ⟨fun hactive => absurd rfl hactive, fun hconnecting => by cases hconnecting⟩
    · rintro c e c' ⟨hstep, hprompted⟩ ⟨hpromised, htimely⟩ he
      have honce : readyOnce c e := by
        cases e with
        | ready => exact fun hmem => absurd hmem hpromised
        | _ => trivial
      exact ⟨inStep_step u hstep htimely honce he, prompted_step u hprompted hpromised he⟩
  exact moving_of_inStep hinv.1 (timed_of_reachable u hr) hinv.2

/-- A session is closed while its base attempt resolves the host, and the
aborted operation completes when the next session resolves its own. -/
def staleResolve : List Event :=
  [.connect (some 1) none, .ready 1 "host" "443" "/", .close none, .connect (some 1) none,
    .ready 3 "host" "443" "/",
    .base (.complete (.connect 1 .resolve 1 (some 1)) { ec := some .operationAborted })]

/-- The second session is connecting, its ready callback has run, and the base
client is disconnected. -/
theorem not_moving_staleResolve :
    ¬ ∀ c : ReconnectingClient Unit, Reachable (system .silent) promised c → Moving c := by
  intro hall
  have hsome : ((run (system (.silent : UserCallbacks Unit)) promised
      (Client.create ⟨Session.create 0, ()⟩ 0) staleResolve).map fun c =>
      (c.owner.session.reconnectState, c.owner.session.connectionGeneration,
        c.owner.session.ready, c.state)) =
      some (.connecting, 3, [1, 3], .disconnected) := by
    decide
  obtain ⟨c, hrun, hc⟩ := Option.map_eq_some_iff.mp hsome
  simp only [Prod.mk.injEq] at hc
  obtain ⟨hstate, hgeneration, hready, hbase⟩ := hc
  have hmoving := hall c ⟨_, ⟨(), 0, rfl⟩, Path.of_run staleResolve hrun⟩
  rcases hmoving.connecting hstate with ⟨-, hnot⟩ | ⟨hconnecting, -⟩
  · rw [hgeneration, hready] at hnot
    exact hnot (by decide)
  · rw [hbase] at hconnecting
    cases hconnecting

/-- The same run with the aborted operation completing in time. -/
def timelyResolve : List Event :=
  [.connect (some 1) none, .ready 1 "host" "443" "/", .close none,
    .base (.complete (.connect 1 .resolve 1 (some 1)) { ec := some .operationAborted }),
    .connect (some 1) none, .ready 3 "host" "443" "/"]

theorem never_stuck_timelyResolve :
    ∃ c : ReconnectingClient Unit,
      run (system .silent) (promised.and timely) (Client.create ⟨Session.create 0, ()⟩ 0)
        timelyResolve = some c ∧ c.owner.session.reconnectState = .connecting ∧ Moving c := by
  have hsome : ((run (system (.silent : UserCallbacks Unit)) (promised.and timely)
      (Client.create ⟨Session.create 0, ()⟩ 0) timelyResolve).map fun c =>
      c.owner.session.reconnectState) = some .connecting := by
    decide
  obtain ⟨c, hrun, hstate⟩ := Option.map_eq_some_iff.mp hsome
  exact ⟨c, hrun, hstate,
    never_stuck .silent ⟨_, ⟨(), 0, rfl⟩, Path.of_run timelyResolve hrun⟩⟩

end CppComponents.ReconnectingSecureWebSocketClient
