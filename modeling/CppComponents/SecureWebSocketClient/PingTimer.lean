import CppComponents.SecureWebSocketClient.Timers

/-!
# The ping chain

Every ping is sent by the handler of the ping timer, which sets the timer again before
it returns. So the chain would end with a handler that does not set it, and be doubled by
one that sets it while another wait is armed. `PingRuns` says that neither happens:
setting the timer cancels the wait that is armed, and a wait that has fired before it was
cancelled finds a connection to keep alive, or does nothing.
-/

namespace CppComponents.SecureWebSocketClient

open CppComponents.Transition

variable {H σ : Type}

namespace Timers

variable {t t' : Timers} {e : Event H}

/-- The ping timer runs while it is to run. -/
def PingRuns (t : Timers) : Prop := t.pingTimer.RunsWhile t.Pinging

theorem pingRuns_startPing (hstopped : ¬ t.Pinging → t.pingTimer.armed = []) (delay : Int) :
    (t.startPing delay).PingRuns := by
  obtain ⟨p, heq, hruns⟩ := startPing_spec hstopped delay
  rw [heq]
  exact hruns

namespace PingRuns

theorem startRead (hstopped : ¬ t.Watching → t.readTimer.armed = []) (h : t.PingRuns) :
    t.startRead.PingRuns := by
  obtain ⟨p, heq, -⟩ := startRead_spec hstopped
  rw [heq]
  exact h

theorem established (h : t.PingRuns) (hstate : t.state = .connecting) : t.established.PingRuns := by
  refine pingRuns_startPing (fun _ => ?_) _
  have hnone : t.pingTimer.armed = [] := h.stopped (not_pinging (by simp [hstate]))
  unfold Timers.startRead
  split <;> exact hnone

theorem setPingInterval (h : t.PingRuns) (interval : Int) :
    (t.setPingInterval interval).PingRuns := by
  unfold Timers.setPingInterval
  simp only
  split
  · rename_i hstate
    have hiff : t.Pinging ↔ { t with pingInterval := interval }.Pinging :=
      iff_of_false (not_pinging hstate) (not_pinging hstate)
    exact SteadyTimer.RunsWhile.congr h hiff
  · exact pingRuns_startPing (fun _ => t.pingTimer.armed_cancel) _

theorem setReadTimeout (h : t.PingRuns) (timeout : Int) : (t.setReadTimeout timeout).PingRuns := by
  unfold Timers.setReadTimeout
  simp only
  split
  · exact h
  · refine startRead (fun _ => t.readTimer.armed_cancel) ?_
    exact h

/-- One step keeps the ping timer running. -/
theorem step (h : t.PingRuns) (hstep : t.Step e t') : t'.PingRuns := by
  cases hstep with
  | same => exact h
  | opened handler hstate =>
    refine SteadyTimer.RunsWhile.congr h ?_
    exact iff_of_false (not_pinging (by simp [hstate])) (not_pinging (by simp))
  | closed => exact .cancel (not_pinging (by simp [Timers.closed]))
  | established _ hstate => exact h.established hstate
  | message => exact h
  | setPingInterval interval => exact h.setPingInterval interval
  | setReadTimeout timeout => exact h.setReadTimeout timeout
  | firePing w p hfire => exact SteadyTimer.RunsWhile.fire h hfire
  | fireRead => exact h
  | ping w p hdeliver hfired hpinging delay =>
    -- the handler sets the timer again, whatever became of the ping
    exact pingRuns_startPing (t := { t with pingTimer := p })
      (fun hnot => absurd hpinging hnot) delay
  | pingIgnored w p hdeliver hignored => exact SteadyTimer.RunsWhile.deliver h hdeliver hignored
  | rearmed w p hdeliver hfired hwatching hearly =>
    exact startRead (t := { t with readTimer := p }) (fun hnot => absurd hwatching hnot) h
  | timedOut => exact .cancel (not_pinging (by simp [Timers.closed]))
  | readIgnored => exact h
  | advance => exact h

end PingRuns

end Timers

namespace Client

variable [DecidableEq H] {cb : Callbacks H σ}

theorem pingRuns_of_reachable {c : Client H σ} (hr : Reachable (system cb) anyStep c) :
    c.timers.PingRuns := by
  refine hr.invariant (I := fun c => c.timers.PingRuns) ?_ fun c e c' h _ hstep =>
    h.step (timers_step hstep)
  rintro c ⟨owner, now, rfl⟩
  have hoff : ¬ (create owner now : Client H σ).timers.Pinging :=
    Timers.not_pinging (by simp [create, timers])
  exact ⟨by simp [create, timers, SteadyTimer.armed], fun hon => absurd hon hoff, fun _ => rfl⟩

/-- **The ping chain neither ends nor forks.** In every reachable state at most one wait
of the ping timer is armed. While the client is connected and `ping_interval` is positive,
one is armed or has fired and its handler is queued; otherwise none is armed. -/
theorem one_ping_chain {c : Client H σ} (hr : Reachable (system cb) anyStep c) :
    c.pingTimer.armed.length ≤ 1 ∧
    (c.state = .connected → 0 < c.pingInterval → c.pingTimer.live ≠ []) ∧
    (c.state ≠ .connected ∨ c.pingInterval ≤ 0 → c.pingTimer.armed = []) := by
  have h := pingRuns_of_reachable hr
  refine ⟨h.armed, fun hstate hinterval => h.live ⟨hstate, hinterval⟩, fun hoff => ?_⟩
  refine h.stopped fun hon => ?_
  rcases hoff with hstate | hinterval
  · exact hstate hon.1
  · exact absurd hon.2 (Int.not_lt.mpr hinterval)

/-- The ping timer fires and is set again before its handler runs. The handler sends a
ping all the same, and sets the timer once more. -/
theorem one_ping_chain_firedBeforeReset :
    ∃ c : Client Nat Unit, Reachable (system .silent) anyStep c ∧
      c.pingTimer.waits = [⟨seconds 5, .aborted, ()⟩, ⟨seconds 5, .armed, ()⟩] ∧
      c.pingTimer.armed.length ≤ 1 ∧
      (c.state = .connected → 0 < c.pingInterval → c.pingTimer.live ≠ []) ∧
      (c.state ≠ .connected ∨ c.pingInterval ≤ 0 → c.pingTimer.armed = []) := by
  have hwaits : (run (system (.silent : Callbacks Nat Unit)) anyStep (create () 0)
      ([.setPingInterval 3] ++ connectEvents 1 ++ [.advance (3 * 10 ^ 9),
        .firePingTimer ⟨seconds 3, .armed, ()⟩, .setPingInterval 2,
        .pingTimer ⟨seconds 3, .fired, ()⟩])).map (·.pingTimer.waits) =
      some [⟨seconds 5, .aborted, ()⟩, ⟨seconds 5, .armed, ()⟩] := by decide
  obtain ⟨c, hrun, hwaits⟩ := Option.map_eq_some_iff.mp hwaits
  have hr : Reachable (system .silent) anyStep c := ⟨_, ⟨(), 0, rfl⟩, Path.of_run _ hrun⟩
  exact ⟨c, hr, hwaits, one_ping_chain hr⟩

end Client

end CppComponents.SecureWebSocketClient
