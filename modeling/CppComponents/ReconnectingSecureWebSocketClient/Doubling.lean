import CppComponents.ReconnectingSecureWebSocketClient.Backoff

/-!
# Doubling in 64 bits

`std::chrono::steady_clock::duration` counts nanoseconds in a signed integer of 64 bits.
`schedule_reconnect()` doubles `current_reconnect_delay` and then applies the limit, so
the product can overflow although the limit does not: from half the range on, the limit
comes too late. The product then wraps to a negative number, which is below every limit,
and the next attempt is started at once.

`HalfRange` is the invariant of a run in which this does not happen. In such a run the
64-bit function is the unbounded one of the model.
-/

namespace CppComponents.ReconnectingSecureWebSocketClient

open CppComponents.SecureWebSocketClient CppComponents.Transition CppComponents.SignedInt

variable {U : Type}

namespace Session

/-- `schedule_reconnect()`, in 64 bits -/
def scheduleReconnect64 (s : Session) (now : Int) : Session :=
  if !s.isReconnectActive then s
  else
    let s := s.setReconnectState .waitingReconnect
    let delay := s.currentReconnectDelay
    { s with
      currentReconnectDelay := double 64 s.maxReconnectDelay s.currentReconnectDelay
      reconnectTimer :=
        (s.reconnectTimer.expiresAt (now + delay)).asyncWait s.connectionGeneration
      log := s.log ++ [.scheduled delay] }

/-- When `schedule_reconnect()` runs next, the product it computes is representable and
the delay it arms the timer with is positive. -/
def SchedulesSafely (s : Session) : Prop :=
  Fits 64 (s.currentReconnectDelay * 2) ∧ 0 < s.currentReconnectDelay

/-- `k` times in a row a reconnect is scheduled, and the timer starts the attempt. -/
def reconnecting (s : Session) (now : Nat → Int) : Nat → Session
  | 0 => s
  | k + 1 => ((s.reconnecting now k).scheduleReconnect64 (now k)).startAttempt

variable {s : Session}

/-- Without an overflow, the 64-bit function is that of the model. -/
theorem scheduleReconnect64_eq
    (hfits : s.reconnectState ≠ .idle → Fits 64 (s.currentReconnectDelay * 2)) (now : Int) :
    s.scheduleReconnect64 now = s.scheduleReconnect now := by
  unfold scheduleReconnect64 scheduleReconnect
  by_cases hactive : s.isReconnectActive = true
  · have hfits := hfits (s.isReconnectActive_iff.mp hactive)
    have hdouble : double 64 s.maxReconnectDelay s.currentReconnectDelay =
        min (s.currentReconnectDelay * 2) s.maxReconnectDelay :=
      double_of_fits (by decide) hfits
    simp [hactive, setReconnectState, hdouble]
  · simp [hactive]

/-- The delay is doubled, and nothing else that decides it changes. -/
theorem reconnecting_spec (hactive : s.reconnectState ≠ .idle) (now : Nat → Int) (k : Nat) :
    (s.reconnecting now k).currentReconnectDelay =
        doubled 64 s.maxReconnectDelay s.currentReconnectDelay k ∧
      (s.reconnecting now k).maxReconnectDelay = s.maxReconnectDelay ∧
      (s.reconnecting now k).reconnectState ≠ .idle := by
  induction k with
  | zero => exact ⟨rfl, rfl, hactive⟩
  | succ k ih =>
    obtain ⟨hcurrent, hmax, hstate⟩ := ih
    have hscheduled : ((s.reconnecting now k).scheduleReconnect64 (now k)).currentReconnectDelay =
          double 64 (s.reconnecting now k).maxReconnectDelay
            (s.reconnecting now k).currentReconnectDelay ∧
        ((s.reconnecting now k).scheduleReconnect64 (now k)).maxReconnectDelay =
          (s.reconnecting now k).maxReconnectDelay := by
      unfold scheduleReconnect64
      rw [(s.reconnecting now k).isReconnectActive_iff.mpr hstate]
      exact ⟨rfl, rfl⟩
    have hattempt := ((s.reconnecting now k).scheduleReconnect64 (now k)).pacing_startAttempt
    refine ⟨?_, ?_, ?_⟩
    · refine (congrArg Pacing.current hattempt).trans (hscheduled.1.trans ?_)
      rw [hcurrent, hmax]
      rfl
    · exact (congrArg Pacing.max hattempt).trans (hscheduled.2.trans hmax)
    · have hconnecting := congrArg Pacing.state hattempt
      intro hidle
      cases hconnecting.symm.trans hidle

/-- The delays stay in range if and only if twice the first and twice the limit do. -/
theorem reconnecting_safely_iff (hactive : s.reconnectState ≠ .idle)
    (hcurrent : 0 < s.currentReconnectDelay) (hmax : 0 < s.maxReconnectDelay) (now : Nat → Int) :
    (∀ k, (s.reconnecting now k).SchedulesSafely) ↔
      Fits 64 (s.currentReconnectDelay * 2) ∧ Fits 64 (s.maxReconnectDelay * 2) := by
  rw [← doubled_fits_iff (by decide) hcurrent hmax]
  refine forall_congr' fun k => ?_
  rw [SchedulesSafely, (reconnecting_spec hactive now k).1]

end Session

/-! ## Runs within half the range -/

/-- Twice the limit is representable, and so is twice the initial delay when an attempt of
the session succeeds. -/
def halfRange : Guard (ReconnectingClient U) Event
  | _, .setMaxReconnectDelay delay => Fits 64 (delay * 2)
  | c, .base (.complete (.connect _ .websocketHandshake _ (some generation)) r) =>
    r.ec = none → c.state = .connecting →
      generation = c.owner.session.connectionGeneration →
      c.owner.session.reconnectState = .connecting →
      Fits 64 (c.owner.session.initialReconnectDelay * 2)
  | _, _ => True

/-- The attempt of the session whose last step the base client completes. -/
def lastStep : SecureWebSocketClient.Event Nat → Option (Nat × Completion)
  | .complete (.connect _ .websocketHandshake _ (some generation)) r => some (generation, r)
  | _ => none

instance (c : ReconnectingClient U) (e : Event) : Decidable (halfRange c e) :=
  match e with
  | .setMaxReconnectDelay delay => inferInstanceAs (Decidable (Fits 64 (delay * 2)))
  | .base e => decidable_of_iff
      (∀ last ∈ lastStep e, last.2.ec = none → c.state = .connecting →
        last.1 = c.owner.session.connectionGeneration →
        c.owner.session.reconnectState = .connecting →
        Fits 64 (c.owner.session.initialReconnectDelay * 2)) (by
      unfold halfRange lastStep
      split
      · simp
      · split <;> simp_all)
  | .connect _ _ | .close _ | .setInitialReconnectDelay _ | .ready _ _ _ _
  | .fireReconnectTimer _ | .reconnectTimer _ => isTrue trivial

namespace Pacing

variable {p p' : Pacing}

/-- The delays are positive, and a reconnect can be scheduled without an overflow. -/
structure HalfRange (p : Pacing) : Prop where
  initial : 0 < p.initial
  max : 0 < p.max
  limit : Fits 64 (p.max * 2)
  current : 0 < p.current
  active : p.state ≠ .idle → Fits 64 (p.current * 2)
  delays : ∀ delay ∈ p.delays, 0 < delay

/-- What is limited is in range. -/
theorem HalfRange.fits_min (h : p.HalfRange) {delay : Int} (hpos : 0 < delay) :
    Fits 64 (min delay p.max * 2) := by
  have hmax := h.max
  exact h.limit.of_le (by omega) (by omega)

/-- One step keeps the delays in range. -/
theorem HalfRange.step (h : p.HalfRange)
    (hchange : p.Change (0 < ·) (fun delay => 0 < delay ∧ Fits 64 (delay * 2))
      (Fits 64 (p.initial * 2)) p') : p'.HalfRange := by
  have hinitial := h.initial
  have hmax := h.max
  have hcurrent := h.current
  cases hchange with
  | same => exact h
  | opened hstate =>
    exact { h with
      current := lt_min hinitial hmax
      active := fun _ => h.fits_min hinitial }
  | attempt hstate => exact { h with active := fun _ => h.active (by simp [hstate]) }
  | established hstate hfits =>
    -- the limit does not apply here
    exact { h with current := hinitial, active := fun _ => hfits }
  | schedule hidle hwait =>
    exact { h with
      current := lt_min (by omega) hmax
      active := fun _ => h.fits_min (by omega)
      delays := fun delay hdelay => by
        rcases List.mem_append.mp hdelay with hmem | hmem
        · exact h.delays delay hmem
        · obtain rfl := List.mem_singleton.mp hmem
          exact hcurrent }
  | stopped => exact { h with current := hinitial, active := fun hne => absurd rfl hne }
  | setInitial delay hpos =>
    unfold setInitial
    split
    · rename_i hidle
      exact { h with initial := hpos, current := hpos, active := fun hne => absurd hidle hne }
    · exact { h with initial := hpos }
  | setMax delay hdelay =>
    obtain ⟨hpos, hfits⟩ := hdelay
    exact { h with
      max := hpos
      limit := hfits
      current := lt_min hcurrent hpos
      active := fun _ => hfits.of_le
        (by show 0 ≤ min p.current delay * 2; omega)
        (by show min p.current delay * 2 ≤ delay * 2; omega) }

end Pacing

variable (u : UserCallbacks U)

theorem halfRange_of_reachable {c : ReconnectingClient U}
    (hr : Reachable (system u) (positiveSettings.and halfRange) c) :
    c.owner.session.pacing.HalfRange := by
  refine hr.invariant (I := fun c => c.owner.session.pacing.HalfRange) ?_ ?_
  · rintro c ⟨user, now, rfl⟩
    have hinitial : 0 < seconds 1 := by decide
    have hmax : 0 < seconds 60 := by decide
    have hlimit : Fits 64 (seconds 60 * 2) := by decide
    exact ⟨hinitial, hmax, hlimit, hinitial, fun hne => absurd rfl hne,
      by simp [Session.pacing, Session.delays, Session.create, Client.create]⟩
  · rintro c e c' h ⟨hpos, hhalf⟩ hstep
    refine h.step (pacing_change u ?_ ?_ ?_ hstep)
    · rintro delay rfl
      exact hpos
    · rintro delay rfl
      exact ⟨hpos, hhalf⟩
    · rintro stream phase n r rfl hstate hsession hconnected
      obtain ⟨rfl, hec⟩ := handshake_of_connected u hstep hstate hconnected
      exact hhalf hec hstate rfl hsession

/-- **When doubling does not overflow.** In a run in which the settings are positive,
twice the limit is representable, and twice the initial delay is when an attempt
succeeds, the product `schedule_reconnect()` computes is always representable, and
`current_reconnect_delay` and every delay the timer was armed with are positive.

For one pair of settings that is what it takes: reconnects can be scheduled after an
accepted `connect()` any number of times without an overflow if and only if twice the
limit is representable; after a successful connection, if and only if twice the initial
delay is, too. -/
theorem doubling_never_overflows :
    (∀ c, Reachable (system u) (positiveSettings.and halfRange) c →
      (c.owner.session.reconnectState ≠ .idle → c.owner.session.SchedulesSafely) ∧
      0 < c.owner.session.currentReconnectDelay ∧
      (∀ delay ∈ c.owner.session.delays, 0 < delay) ∧
      ∀ now, c.owner.session.scheduleReconnect64 now = c.owner.session.scheduleReconnect now) ∧
    (∀ (s : Session) (now : Nat → Int), 0 < s.initialReconnectDelay → 0 < s.maxReconnectDelay →
      (∀ prepareConnection handler,
        (∀ k, ((s.opened prepareConnection handler).startAttempt.reconnecting now
          k).SchedulesSafely) ↔ Fits 64 (s.maxReconnectDelay * 2)) ∧
      ((∀ k, (s.established.reconnecting now k).SchedulesSafely) ↔
        Fits 64 (s.initialReconnectDelay * 2) ∧ Fits 64 (s.maxReconnectDelay * 2))) := by
  refine ⟨fun c hr => ?_, fun s now hinitial hmax => ⟨fun prepareConnection handler => ?_, ?_⟩⟩
  · have h := halfRange_of_reachable u hr
    exact ⟨fun hactive => ⟨h.active hactive, h.current⟩, h.current, h.delays,
      Session.scheduleReconnect64_eq h.active⟩
  · have hattempt := (s.opened prepareConnection handler).pacing_startAttempt
    have hcurrent : (s.opened prepareConnection handler).startAttempt.currentReconnectDelay =
        min s.initialReconnectDelay s.maxReconnectDelay := congrArg Pacing.current hattempt
    have hlimit : (s.opened prepareConnection handler).startAttempt.maxReconnectDelay =
        s.maxReconnectDelay := congrArg Pacing.max hattempt
    have hstate : (s.opened prepareConnection handler).startAttempt.reconnectState =
        .connecting := congrArg Pacing.state hattempt
    rw [Session.reconnecting_safely_iff (by simp [hstate]) (by omega) (by omega), hcurrent, hlimit]
    exact and_iff_right_of_imp fun hfits => hfits.of_le (by omega) (by omega)
  · exact Session.reconnecting_safely_iff (s := s.established) (by simp [Session.established])
      hinitial hmax now

/-- The resolve of the first attempt fails. -/
def resolveFails : Event :=
  .base (.complete (.connect 1 .resolve 1 (some 1)) ⟨some (.other 1), none, none, none, []⟩)

/-- Both settings are `duration::max()`, and the first attempt fails. The product is not
representable when its reconnect is scheduled, and the delay that the second failed attempt
arms the timer with is -2 ns. -/
theorem not_schedulesSafely_durationMax :
    ∃ c c' : ReconnectingClient Unit, Reachable (system .silent) positiveSettings c ∧
      c.owner.session.initialReconnectDelay = 2 ^ 63 - 1 ∧
      c.owner.session.maxReconnectDelay = 2 ^ 63 - 1 ∧
      step .silent c resolveFails = some c' ∧
      c.owner.session.delays = [] ∧ c'.owner.session.delays = [2 ^ 63 - 1] ∧
      ¬ c.owner.session.SchedulesSafely ∧
      (c.owner.session.scheduleReconnect64 c.now).currentReconnectDelay = -2 := by
  have hany : (run (system (.silent : UserCallbacks Unit)) positiveSettings
      (Client.create ⟨Session.create 0, ()⟩ 0)
      [.setInitialReconnectDelay (2 ^ 63 - 1), .setMaxReconnectDelay (2 ^ 63 - 1),
        .connect (some 1) (some 2), .ready 1 "host" "443" "/"]).any (fun c =>
        c.owner.session.initialReconnectDelay = 2 ^ 63 - 1 ∧
        c.owner.session.maxReconnectDelay = 2 ^ 63 - 1 ∧
        c.owner.session.currentReconnectDelay = 2 ^ 63 - 1 ∧
        (step .silent c resolveFails).any (fun c' =>
          c.owner.session.delays = [] ∧ c'.owner.session.delays = [2 ^ 63 - 1]) = true ∧
        (c.owner.session.scheduleReconnect64 c.now).currentReconnectDelay = -2) = true := by
    decide
  obtain ⟨c, hrun, hc⟩ := (Option.any_eq_true _ _).mp hany
  obtain ⟨hinitial, hmax, hcurrent, hfails, hnext⟩ := of_decide_eq_true hc
  obtain ⟨c', hstep, hc'⟩ := (Option.any_eq_true _ _).mp hfails
  obtain ⟨hnone, hdelays⟩ := of_decide_eq_true hc'
  have hr : Reachable (system .silent) positiveSettings c :=
    ⟨_, ⟨(), 0, rfl⟩, Path.of_run _ hrun⟩
  refine ⟨c, c', hr, hinitial, hmax, hstep, hnone, hdelays, fun hsafe => ?_, hnext⟩
  have hfits := hsafe.1
  rw [hcurrent] at hfits
  exact absurd hfits (by decide)

/-- With half of `duration::max()` as the limit, an attempt fails, and so may any number
of others. -/
theorem doubling_never_overflows_halfOfMax :
    (∃ c : ReconnectingClient Unit,
      Reachable (system .silent) (positiveSettings.and halfRange) c ∧
        c.owner.session.delays = [10 ^ 9] ∧ c.owner.session.SchedulesSafely) ∧
    ∀ k, ((({ Session.create 0 with maxReconnectDelay := 2 ^ 62 - 1 } : Session).opened none
      none).startAttempt.reconnecting (fun _ => 0) k).SchedulesSafely := by
  obtain ⟨hruns, hsettings⟩ := doubling_never_overflows (.silent : UserCallbacks Unit)
  refine ⟨?_, fun k => ?_⟩
  · have hran : (run (system (.silent : UserCallbacks Unit)) (positiveSettings.and halfRange)
        (Client.create ⟨Session.create 0, ()⟩ 0)
        ([.setMaxReconnectDelay (2 ^ 62 - 1), .connect (some 1) (some 2)] ++ failAndWait)).map
          (fun c => (c.owner.session.delays, c.owner.session.reconnectState)) =
        some ([10 ^ 9], .connecting) := by decide
    obtain ⟨c, hrun, hc⟩ := Option.map_eq_some_iff.mp hran
    obtain ⟨hdelays, hstate⟩ := Prod.mk.inj hc
    have hr : Reachable (system .silent) (positiveSettings.and halfRange) c :=
      ⟨_, ⟨(), 0, rfl⟩, Path.of_run _ hrun⟩
    have hstate : c.owner.session.reconnectState = .connecting := hstate
    exact ⟨c, hr, hdelays, (hruns c hr).1 (by simp [hstate])⟩
  · obtain ⟨hopened, -⟩ := hsettings { Session.create 0 with maxReconnectDelay := 2 ^ 62 - 1 }
      (fun _ => 0) (by decide) (by decide)
    exact (hopened none none).mpr (by decide) k

end CppComponents.ReconnectingSecureWebSocketClient
