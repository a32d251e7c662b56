import CppComponents.SignedInt
import CppComponents.SecureWebSocketClient.Timers

/-!
# The timers in 64 bits

The settings are `std::chrono::seconds`, the timers count nanoseconds, and both counts are
signed integers of 64 bits. The conversion multiplies by a billion, so a setting of some
292 years or more does not survive it, and a deadline that is added to a clock has a
little less room. `startReadTimer64`, `handleReadTimeout64` and `handlePingTimer64` are
the functions of the source in 64 bits; in range they are those of the model.

Nothing checks the settings. A user who sets `seconds::max()` to mean "never" gets a
deadline one second before `last_read_time`.
-/

namespace CppComponents.SecureWebSocketClient

open CppComponents.Transition CppComponents.SignedInt

variable {H σ : Type}

/-- `std::chrono::seconds` to nanoseconds, in 64 bits -/
def nanoseconds64 (n : Int) : Int := wrap 64 (n * 10 ^ 9)

/-- The longest setting whose nanoseconds are representable. -/
def maxSeconds : Int := 9223372036

theorem nanoseconds64_eq {n : Int} (h : Fits 64 (seconds n)) : nanoseconds64 n = seconds n :=
  wrap_of_fits (by decide) h

theorem fits_seconds_iff {n : Int} (hpos : 0 < n) : Fits 64 (seconds n) ↔ n ≤ maxSeconds := by
  unfold Fits seconds maxSeconds
  omega

namespace Client

variable (cb : Callbacks H σ) (c : Client H σ)

/-! ## The functions in 64 bits -/

/-- `last_read_time + read_timeout`, in 64 bits -/
def readDeadline64 : Int := wrap 64 (c.lastReadTime + nanoseconds64 c.readTimeout)

/-- `start_ping_timer()`, in 64 bits -/
def startPingTimer64 : Client H σ := c.startPingTimer (nanoseconds64 c.pingInterval)

/-- `start_read_timer()`, in 64 bits -/
def startReadTimer64 : Client H σ :=
  if c.readTimeout ≤ 0 ∨ c.state ≠ .connected then c
  else { c with readTimer := (c.readTimer.expiresAt c.readDeadline64).asyncWait () }

/-- `handle_read_timeout()`, in 64 bits -/
def handleReadTimeout64 (status : WaitStatus) : Client H σ :=
  if status = .aborted ∨ c.state ≠ .connected ∨ c.readTimeout ≤ 0 then c
  else if c.now < c.readDeadline64 then c.startReadTimer64
  else c.handleUnexpectedDisconnect cb (.errc .timedOut)

/-- `handle_ping_timer()`, in 64 bits -/
def handlePingTimer64 (status : WaitStatus) : Client H σ :=
  if status = .aborted ∨ c.state ≠ .connected ∨ c.pingInterval ≤ 0 then c
  else
    let (code, c) := match c.pingMessageGenerator with
      | some h =>
        let message := (cb.ping h c.now c.owner).2
        (c.runCallback fun now owner => (cb.ping h now owner).1).doWrite cb message none
      | none => c.doProtocolPing
    c.startPingTimer (if code = some .noBufferSpace then pingRetryDelay
      else nanoseconds64 c.pingInterval)

/-! ## In range -/

/-- The conversions of both settings and the sum are representable, the deadline is later
than `last_read_time`, and the delay of the ping timer is positive. -/
structure TimersSafe (c : Client H σ) : Prop where
  interval : Fits 64 (seconds c.pingInterval)
  timeout : Fits 64 (seconds c.readTimeout)
  sum : Fits 64 (c.lastReadTime + seconds c.readTimeout)
  later : c.lastReadTime < c.readDeadline64
  positive : 0 < nanoseconds64 c.pingInterval

variable {c}

theorem readDeadline64_eq (htimeout : Fits 64 (seconds c.readTimeout))
    (hsum : Fits 64 (c.lastReadTime + seconds c.readTimeout)) :
    c.readDeadline64 = c.timers.deadline := by
  unfold readDeadline64
  rw [nanoseconds64_eq htimeout]
  exact wrap_of_fits (by decide) hsum

/-- In range, the functions are those of the model. -/
theorem startReadTimer64_eq (hdeadline : c.readDeadline64 = c.timers.deadline) :
    c.startReadTimer64 = c.startReadTimer := by
  unfold startReadTimer64
  rw [hdeadline]
  rfl

theorem handleReadTimeout64_eq (hdeadline : c.readDeadline64 = c.timers.deadline)
    (status : WaitStatus) : c.handleReadTimeout64 cb status = c.handleReadTimeout cb status := by
  unfold handleReadTimeout64
  rw [startReadTimer64_eq hdeadline, hdeadline]
  rfl

theorem handlePingTimer64_eq (hinterval : Fits 64 (seconds c.pingInterval))
    (status : WaitStatus) : c.handlePingTimer64 cb status = c.handlePingTimer cb status := by
  have F := timersFrame (H := H) (σ := σ)
  -- the ping does not change the interval
  have hsame : ∀ c₁ : Client H σ, c₁.timers = c.timers →
      nanoseconds64 c₁.pingInterval = seconds c₁.pingInterval := by
    intro c₁ heq
    have hinterval₁ : c₁.pingInterval = c.pingInterval := congrArg Timers.pingInterval heq
    rw [hinterval₁]
    exact nanoseconds64_eq hinterval
  unfold handlePingTimer64 handlePingTimer
  split
  · rfl
  · cases c.pingMessageGenerator with
    | none =>
      have hpinged := hsame c.doProtocolPing.2 (F.queueWrite c _)
      simp only [hpinged]
    | some h =>
      have hpinged := hsame _ (F.ping cb c (fun now owner => (cb.ping h now owner).1)
        (cb.ping h c.now c.owner).2)
      simp only [hpinged]

/-- **When the timer arithmetic is safe.** For positive settings it is if and only if
neither setting is longer than `maxSeconds` and the deadline is representable. Then the
timers do in 64 bits what they do in the model. -/
theorem timer_arithmetic_safe (hlast : Fits 64 c.lastReadTime) (htimeout : 0 < c.readTimeout)
    (hinterval : 0 < c.pingInterval) :
    (c.TimersSafe ↔ c.pingInterval ≤ maxSeconds ∧ c.readTimeout ≤ maxSeconds ∧
      c.lastReadTime + seconds c.readTimeout < 2 ^ 63) ∧
    (c.TimersSafe → c.startPingTimer64 = c.startPingTimer (seconds c.pingInterval) ∧
      c.startReadTimer64 = c.startReadTimer ∧
      (∀ status, c.handlePingTimer64 cb status = c.handlePingTimer cb status) ∧
      ∀ status, c.handleReadTimeout64 cb status = c.handleReadTimeout cb status) := by
  have hpositive : 0 < seconds c.readTimeout := by
    unfold seconds
    omega
  refine ⟨⟨fun h => ?_, fun ⟨hping, hread, hsum⟩ => ?_⟩, fun h => ?_⟩
  · exact ⟨(fits_seconds_iff hinterval).mp h.interval, (fits_seconds_iff htimeout).mp h.timeout,
      h.sum.2⟩
  · have hping := (fits_seconds_iff hinterval).mpr hping
    have hread := (fits_seconds_iff htimeout).mpr hread
    have hsum : Fits 64 (c.lastReadTime + seconds c.readTimeout) := by
      have hlow := hlast.1
      exact ⟨by omega, hsum⟩
    exact {
      interval := hping
      timeout := hread
      sum := hsum
      later := by
        rw [readDeadline64_eq hread hsum]
        show c.lastReadTime < c.lastReadTime + seconds c.readTimeout
        omega
      positive := by
        rw [nanoseconds64_eq hping]
        unfold seconds
        omega }
  · have hdeadline := readDeadline64_eq h.timeout h.sum
    refine ⟨?_, startReadTimer64_eq hdeadline, handlePingTimer64_eq cb h.interval,
      handleReadTimeout64_eq cb hdeadline⟩
    exact congrArg c.startPingTimer (nanoseconds64_eq h.interval)

/-- Both settings are `seconds::max()`. The deadline of an established connection is
before `last_read_time`, its first look at the clock ends it, and the delay of the ping
timer is negative. -/
theorem not_timersSafe_secondsMax :
    ∃ c : Client Nat Unit, Reachable (system .silent) anyStep c ∧ c.state = .connected ∧
      c.readTimeout = 2 ^ 63 - 1 ∧ c.pingInterval = 2 ^ 63 - 1 ∧ ¬ c.TimersSafe ∧
      c.readDeadline64 = c.lastReadTime - 10 ^ 9 ∧ nanoseconds64 c.pingInterval = -10 ^ 9 ∧
      (c.handleReadTimeout64 .silent .fired).state = .disconnected := by
  have hran : (run (system (.silent : Callbacks Nat Unit)) anyStep (create () 0)
      ([.setReadTimeout (2 ^ 63 - 1), .setPingInterval (2 ^ 63 - 1)] ++ connectEvents 1)).map
        (fun c => (c.state, c.readTimeout, c.pingInterval, c.lastReadTime,
          (c.handleReadTimeout64 .silent .fired).state)) =
      some (.connected, 2 ^ 63 - 1, 2 ^ 63 - 1, 0, .disconnected) := by decide
  obtain ⟨c, hrun, hc⟩ := Option.map_eq_some_iff.mp hran
  simp only [Prod.mk.injEq] at hc
  obtain ⟨hstate, htimeout, hinterval, hlast, hended⟩ := hc
  have hr : Reachable (system .silent) anyStep c := ⟨_, ⟨(), 0, rfl⟩, Path.of_run _ hrun⟩
  refine ⟨c, hr, hstate, htimeout, hinterval, fun hsafe => ?_, ?_, ?_, hended⟩
  · have hfits := hsafe.timeout
    rw [htimeout] at hfits
    exact absurd hfits (by decide)
  · rw [readDeadline64, htimeout, hlast]
    decide
  · rw [hinterval]
    decide

/-- The longest settings, for a connection established when the clock read zero. -/
theorem timer_arithmetic_safe_maxSeconds :
    ∃ c : Client Nat Unit, Reachable (system .silent) anyStep c ∧ c.state = .connected ∧
      c.readTimeout = maxSeconds ∧ c.pingInterval = maxSeconds ∧ c.TimersSafe ∧
      c.startReadTimer64 = c.startReadTimer := by
  have hran : (run (system (.silent : Callbacks Nat Unit)) anyStep (create () 0)
      ([.setReadTimeout maxSeconds, .setPingInterval maxSeconds] ++ connectEvents 1)).map
        (fun c => (c.state, c.readTimeout, c.pingInterval, c.lastReadTime)) =
      some (.connected, maxSeconds, maxSeconds, 0) := by decide
  obtain ⟨c, hrun, hc⟩ := Option.map_eq_some_iff.mp hran
  simp only [Prod.mk.injEq] at hc
  obtain ⟨hstate, htimeout, hinterval, hlast⟩ := hc
  have hr : Reachable (system .silent) anyStep c := ⟨_, ⟨(), 0, rfl⟩, Path.of_run _ hrun⟩
  obtain ⟨hiff, hsame⟩ := timer_arithmetic_safe .silent (c := c) (by rw [hlast]; decide)
    (by rw [htimeout]; decide) (by rw [hinterval]; decide)
  have hsafe : c.TimersSafe := by
    refine hiff.mpr ?_
    rw [htimeout, hinterval, hlast]
    decide
  exact ⟨c, hr, hstate, htimeout, hinterval, hsafe, (hsame hsafe).2.1⟩

end Client

end CppComponents.SecureWebSocketClient
