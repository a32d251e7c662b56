import CppComponents.SecureWebSocketClient.Timers

/-!
# The read timeout

The read timer is armed once a period, for `last_read_time + read_timeout`. A message
only moves `last_read_time`, so the wait that is armed may be for an earlier time than
the deadline, never for a later one. Its handler compares the clock with the deadline:
the connection is given up, or the timer is armed for the rest. `ReadRuns` is the
invariant.

`last_read_time` is a field that anybody could set. The record `lastActivity` is the time
at which the connection was established, received a message or had its timeout set,
whichever was last, read off the events of the run; `since_eq` says that the two agree
while the client is connected.
-/

namespace CppComponents.SecureWebSocketClient

open CppComponents.Transition

variable {H σ : Type}

namespace Timers

variable {t t' : Timers} {e : Event H}

/-- The read timer runs while it is to run, and no wait is for a time after the
deadline. -/
structure ReadRuns (t : Timers) : Prop where
  runs : t.readTimer.RunsWhile t.Watching
  due : t.Watching → ∀ w ∈ t.readTimer.live, w.expiry ≤ t.deadline
  fired : ∀ w ∈ t.readTimer.live, w.status = .fired → w.expiry ≤ t.now
  past : t.state = .connected → t.lastReadTime ≤ t.now

/-- `start_read_timer()`, with the timer stopped unless it is to run, and no fired wait
for a time after the deadline. -/
theorem readRuns_startRead (hstopped : ¬ t.Watching → t.readTimer.armed = [])
    (hdue : t.Watching → ∀ w ∈ t.readTimer.live, w.status = .fired → w.expiry ≤ t.deadline)
    (hfired : ∀ w ∈ t.readTimer.live, w.status = .fired → w.expiry ≤ t.now)
    (hpast : t.state = .connected → t.lastReadTime ≤ t.now) : t.startRead.ReadRuns := by
  obtain ⟨p, heq, hruns, -, hlive⟩ := startRead_spec hstopped
  rw [heq]
  exact {
    runs := hruns
    due := fun hon w hw => by
      rcases hlive w hw with ⟨-, rfl⟩ | ⟨hmem, hstatus⟩
      · exact Int.le_refl _
      · exact hdue hon w hmem (hstatus hon)
    fired := fun w hw hstatus => by
      rcases hlive w hw with ⟨-, rfl⟩ | ⟨hmem, -⟩
      · cases hstatus
      · exact hfired w hmem hstatus
    past := hpast }

namespace ReadRuns

theorem startPing (h : t.ReadRuns) (delay : Int) : (t.startPing delay).ReadRuns := by
  unfold Timers.startPing
  split
  · exact h
  · exact ⟨h.runs, h.due, h.fired, h.past⟩

theorem closed (h : t.ReadRuns) : t.closed.ReadRuns where
  runs := .cancel (not_watching (by simp [Timers.closed]))
  due := fun hon => absurd hon (not_watching (by simp [Timers.closed]))
  fired := fun w hw => h.fired w (SteadyTimer.fired_of_mem_cancel hw).1
  past := fun hstate => by cases hstate

/-- A message moves the deadline, and never back. -/
theorem touch (h : t.ReadRuns) (hstate : t.state = .connected) : t.touch.ReadRuns where
  runs := h.runs
  due := fun hon w hw => by
    have hdue : w.expiry ≤ t.lastReadTime + seconds t.readTimeout := h.due hon w hw
    have hpast := h.past hstate
    show w.expiry ≤ t.now + seconds t.readTimeout
    omega
  fired := h.fired
  past := fun _ => Int.le_refl _

/-- A deadline that counts from now is after every wait that has fired. -/
theorem fired_le_deadline (h : t.ReadRuns) {timeout : Int} (htimeout : 0 < timeout) :
    ∀ w ∈ t.readTimer.live, w.status = .fired → w.expiry ≤ t.now + seconds timeout := by
  intro w hw hstatus
  have := h.fired w hw hstatus
  unfold seconds
  omega

theorem established (h : t.ReadRuns) (hstate : t.state = .connecting) : t.established.ReadRuns := by
  have hnone : t.readTimer.armed = [] := h.runs.stopped (not_watching (by simp [hstate]))
  refine startPing ?_ _
  refine readRuns_startRead (fun _ => hnone) (fun hon => ?_) h.fired fun _ => Int.le_refl _
  exact h.fired_le_deadline hon.2

theorem setPingInterval (h : t.ReadRuns) (interval : Int) :
    (t.setPingInterval interval).ReadRuns := by
  unfold Timers.setPingInterval
  simp only
  split
  · exact ⟨h.runs, h.due, h.fired, h.past⟩
  · refine startPing ?_ _
    exact ⟨h.runs, h.due, h.fired, h.past⟩

theorem setReadTimeout (h : t.ReadRuns) (timeout : Int) : (t.setReadTimeout timeout).ReadRuns := by
  unfold Timers.setReadTimeout
  simp only
  split
  · rename_i hstate
    have hoff : ¬ { t with readTimeout := timeout }.Watching := not_watching hstate
    exact {
      runs := h.runs.congr (iff_of_false (not_watching hstate) hoff)
      due := fun hon => absurd hon hoff
      fired := h.fired
      past := h.past }
  · refine readRuns_startRead (fun _ => t.readTimer.armed_cancel) (fun hon w hw hstatus => ?_)
      (fun w hw => ?_) fun _ => Int.le_refl _
    · exact h.fired_le_deadline hon.2 w (SteadyTimer.fired_of_mem_cancel hw).1 hstatus
    · exact h.fired w (SteadyTimer.fired_of_mem_cancel hw).1

theorem fire (h : t.ReadRuns) {w : Wait Unit} {p : SteadyTimer Unit}
    (hfire : t.readTimer.fire w t.now = some p) : { t with readTimer := p }.ReadRuns := by
  obtain ⟨hw, hnow, -⟩ := SteadyTimer.fire_eq_some hfire
  have harmed : w.status ≠ .aborted := by
    have hstatus : w.status = .armed := by simpa using (List.mem_filter.mp hw).2
    simp [hstatus]
  have hlive : w ∈ t.readTimer.live :=
    SteadyTimer.mem_live.mpr ⟨SteadyTimer.armed_subset_waits hw, harmed⟩
  have hcases : ∀ v ∈ p.live, v ∈ t.readTimer.live ∨ v.expiry = w.expiry := by
    intro v hv
    rw [SteadyTimer.live_fire hfire] at hv
    rcases List.mem_append.mp hv with hv | hv
    · exact .inl (List.mem_of_mem_erase hv)
    · obtain rfl := List.mem_singleton.mp hv
      exact .inr rfl
  exact {
    runs := h.runs.fire hfire
    due := fun hon v hv => by
      rcases hcases v hv with hv | heq
      · exact h.due hon v hv
      · exact heq.trans_le (h.due hon w hlive)
    fired := fun v hv hstatus => by
      rcases hcases v hv with hv | heq
      · exact h.fired v hv hstatus
      · exact heq.trans_le hnow
    past := h.past }

/-- One step keeps the read timer running. -/
theorem step (h : t.ReadRuns) (hstep : t.Step e t') : t'.ReadRuns := by
  cases hstep with
  | same => exact h
  | opened handler hstate =>
    have hoff : ¬ { t with state := .connecting }.Watching := not_watching (by simp)
    exact {
      runs := h.runs.congr (iff_of_false (not_watching (by simp [hstate])) hoff)
      due := fun hon => absurd hon hoff
      fired := h.fired
      past := fun hconnected => by cases hconnected }
  | closed => exact h.closed
  | established _ hstate => exact h.established hstate
  | message stream r hstate _ => exact h.touch hstate
  | setPingInterval interval => exact h.setPingInterval interval
  | setReadTimeout timeout => exact h.setReadTimeout timeout
  | firePing => exact ⟨h.runs, h.due, h.fired, h.past⟩
  | fireRead w p hfire => exact h.fire hfire
  | ping =>
    refine startPing ?_ _
    exact ⟨h.runs, h.due, h.fired, h.past⟩
  | pingIgnored => exact ⟨h.runs, h.due, h.fired, h.past⟩
  -- the wait that ran is gone, and the timer is armed for the deadline again
  | rearmed w p hdeliver hfired hwatching hearly =>
    have hlive := SteadyTimer.mem_live_of_deliver hdeliver
    exact readRuns_startRead (fun hnot => absurd hwatching hnot)
      (fun hon v hv _ => h.due hon v (hlive v hv)) (fun v hv => h.fired v (hlive v hv)) h.past
  | timedOut w p hdeliver hfired hwatching hlate =>
    have hlive := SteadyTimer.mem_live_of_deliver hdeliver
    exact {
      runs := .cancel (not_watching (by simp [Timers.closed]))
      due := fun hon => absurd hon (not_watching (by simp [Timers.closed]))
      fired := fun v hv => h.fired v (hlive v (SteadyTimer.fired_of_mem_cancel hv).1)
      past := fun hstate => by cases hstate }
  -- the wait was cancelled, or there is nothing to watch any more
  | readIgnored w p hdeliver hignored =>
    have hlive := SteadyTimer.mem_live_of_deliver hdeliver
    exact {
      runs := h.runs.deliver hdeliver hignored
      due := fun hon v hv => h.due hon v (hlive v hv)
      fired := fun v hv => h.fired v (hlive v hv)
      past := h.past }
  | advance duration =>
    exact {
      runs := h.runs
      due := h.due
      fired := fun w hw hstatus => (h.fired w hw hstatus).trans (by simp)
      past := fun hstate => (h.past hstate).trans (by simp) }

end ReadRuns

/-! ## When the connection was last active -/

/-- The time of the last activity, after a step. -/
def lastActivity (since : Int) (t : Timers) (e : Event H) (t' : Timers) : Int :=
  if t.state = .connected ∧ e.isActivity = true ∨ t.state ≠ .connected ∧ t'.state = .connected
  then t.now else since

/-- `last_read_time` moves with the activity of the connection. -/
theorem lastReadTime_step {since : Int} (h : t.state = .connected → t.lastReadTime = since)
    (hstep : t.Step e t') (hstate' : t'.state = .connected) :
    t'.lastReadTime = lastActivity since t e t' := by
  -- a step that shows no activity and leaves `last_read_time` alone
  have hkeep : t'.state = t.state → t'.lastReadTime = t.lastReadTime →
      (t.state = .connected → e.isActivity = false) →
      t'.lastReadTime = lastActivity since t e t' := by
    intro hstate hread hquiet
    have hconnected : t.state = .connected := hstate.symm.trans hstate'
    rw [lastActivity, if_neg (by simp [hconnected, hquiet hconnected]), hread]
    exact h hconnected
  cases hstep with
  | same _ hquiet => exact hkeep rfl rfl hquiet
  | opened => cases hstate'
  | closed => cases hstate'
  | established _ hstate =>
    rw [lastActivity, if_pos (.inr ⟨by simp [hstate], hstate'⟩)]
    exact (startPing_frame _ _).2.trans (startRead_frame _).2
  | message stream r hstate hec =>
    rw [lastActivity, if_pos (.inl ⟨hstate, by simp [Event.isActivity, hec]⟩)]
    rfl
  | setPingInterval interval =>
    obtain ⟨hstate, hread⟩ := t.setPingInterval_frame interval
    exact hkeep hstate hread fun _ => rfl
  | setReadTimeout timeout =>
    by_cases hstate : t.state = .connected
    · rw [lastActivity, if_pos (.inl ⟨hstate, rfl⟩)]
      unfold Timers.setReadTimeout
      simp only [hstate]
      exact (startRead_frame _).2
    · unfold Timers.setReadTimeout at hstate'
      simp only [if_pos hstate] at hstate'
      exact absurd hstate' hstate
  | ping w p hdeliver hfired hpinging delay =>
    obtain ⟨hstate, hread⟩ := startPing_frame { t with pingTimer := p } delay
    exact hkeep hstate hread fun _ => rfl
  | rearmed w p =>
    obtain ⟨hstate, hread⟩ := startRead_frame { t with readTimer := p }
    exact hkeep hstate hread fun _ => rfl
  | timedOut => cases hstate'
  | firePing | fireRead | pingIgnored | readIgnored | advance =>
    exact hkeep rfl rfl fun _ => rfl

end Timers

namespace Client

variable [DecidableEq H] (cb : Callbacks H σ)

/-- A client with the time of its last activity: that the connection was established, a
message was received, or `set_read_timeout()` was called. -/
def watched : System (Client H σ × Int) (Event H) :=
  (system cb).record 0 fun since c e c' => Timers.lastActivity since c.timers e c'.timers

variable {cb} {c c' : Client H σ} {since : Int}

theorem readRuns_of_reachable (hr : Reachable (watched cb) anyStep (c, since)) :
    c.timers.ReadRuns ∧ (c.state = .connected → c.lastReadTime = since) := by
  have hr : Reachable (watched cb) (fun p e => anyStep p.1 e) (c, since) := hr
  refine hr.record_invariant
    (I := fun c since => c.timers.ReadRuns ∧ (c.state = .connected → c.lastReadTime = since)) ?_ ?_
  · rintro c ⟨owner, now, rfl⟩
    have hstate : (create owner now : Client H σ).timers.state ≠ .connected := by
      simp [create, timers]
    have hoff := Timers.not_watching hstate
    have hnone : (create owner now : Client H σ).timers.readTimer.live = [] := rfl
    refine ⟨?_, fun hconn => absurd hconn hstate⟩
    exact {
      runs := ⟨by simp [create, timers, SteadyTimer.armed], fun hon => absurd hon hoff,
        fun _ => rfl⟩
      due := fun hon => absurd hon hoff
      fired := by simp [hnone]
      past := fun hconn => absurd hconn hstate }
  · rintro c since e c' ⟨hruns, hsince⟩ - hstep
    have htimers := timers_step hstep
    exact ⟨hruns.step htimers, Timers.lastReadTime_step hsince htimers⟩

/-- A timeout that has passed ends the connection. -/
theorem readTimer_late (hr : Reachable (system cb) anyStep c) {w : Wait Unit}
    (hfired : w.status = .fired) (hstep : c.step cb (.readTimer w) = some c')
    (hwatching : c.timers.Watching) (hlate : c.timers.deadline ≤ c.now) :
    c'.state = .disconnected ∧ c'.disconnects = c.disconnects ++ [.errc .timedOut] := by
  have hending : c.ending (.readTimer w) = some .readTimeout :=
    if_pos ⟨hfired, hwatching.2, hlate⟩
  have hended := step_of_ending (settled_of_reachable cb hr) hwatching.1 hending hstep
  exact ⟨hended.state, hended.disconnects⟩

/-- A timeout that has not passed leaves the connection up, and the timer armed for the
deadline. -/
theorem readTimer_early {w : Wait Unit} (hfired : w.status = .fired)
    (hstep : c.step cb (.readTimer w) = some c') (hwatching : c.timers.Watching)
    (hearly : c.now < c.timers.deadline) :
    c'.state = .connected ∧ c'.disconnects = c.disconnects ∧
      c'.readTimer.armed = [⟨c.timers.deadline, .armed, ()⟩] := by
  have hending : c.ending (.readTimer w) = none :=
    if_neg fun h => absurd h.2.2 (Int.not_le.mpr hearly)
  have hok : currentReads c (.readTimer w) := trivial
  obtain ⟨hstate, hquiet⟩ := step_of_up hok hwatching.1 hending hstep
  refine ⟨hstate, hquiet, ?_⟩
  obtain ⟨p, -, rfl⟩ := Option.map_eq_some_iff.mp hstep
  let delivered : Client H σ := { c with readTimer := p }
  have hon : delivered.timers.Watching := hwatching
  have heq : delivered.handleReadTimeout cb w.status = delivered.startReadTimer := by
    rw [handleReadTimeout_eq cb (by simp [hfired]) hon]
    exact if_pos hearly
  obtain ⟨q, hq, -, harmed, -⟩ := Timers.startRead_spec (t := delivered.timers)
    fun hnot => absurd hon hnot
  have htimers : (delivered.handleReadTimeout cb w.status).timers =
      { delivered.timers with readTimer := q } := by
    rw [heq, timers_startReadTimer, hq]
  show (delivered.handleReadTimeout cb w.status).timers.readTimer.armed = _
  rw [htimers]
  exact harmed hon

omit [DecidableEq H] in
/-- Only the read timer ends a connection with `timed_out`. -/
theorem ending_of_timedOut {e : Event H} {x : Ending} (hending : c.ending e = some x)
    (herror : x.error = some (.errc .timedOut)) :
    0 < c.readTimeout ∧ c.timers.deadline ≤ c.now := by
  unfold ending at hending
  split at hending
  · cases hending
    cases herror
  · split at hending
    · obtain ⟨ec, -, rfl⟩ := Option.map_eq_some_iff.mp hending
      cases herror
    · cases hending
  · split at hending
    · obtain ⟨ec, -, rfl⟩ := Option.map_eq_some_iff.mp hending
      cases herror
    · cases hending
  · split at hending
    · rename_i hlate
      exact hlate.2
    · cases hending
  · cases hending

/-- **The read timeout is exact.** In every reachable state:

- while the client is connected and `read_timeout` is positive, at most one wait of the
  read timer is armed, one is armed or has fired and its handler is queued, and no such
  wait is for a time after `last_read_time + read_timeout`; otherwise none is armed;
- a fired wait that runs while the client is connected and `read_timeout` is positive
  ends the connection with `timed_out` if the time since the last activity is at least
  the timeout; if it is not, the connection stays up and the timer is armed for exactly
  the time that is left;
- nothing else ends a connection with `timed_out`. -/
theorem read_timeout_exact (hr : Reachable (watched cb) anyStep (c, since)) :
    (c.state = .connected → 0 < c.readTimeout →
      c.readTimer.armed.length ≤ 1 ∧ c.readTimer.live ≠ [] ∧
      ∀ w ∈ c.readTimer.live, w.expiry ≤ c.lastReadTime + seconds c.readTimeout) ∧
    (c.state ≠ .connected ∨ c.readTimeout ≤ 0 → c.readTimer.armed = []) ∧
    (∀ w c', w.status = .fired → c.step cb (.readTimer w) = some c' → c.state = .connected →
      0 < c.readTimeout →
      (seconds c.readTimeout ≤ c.now - since → c'.state = .disconnected ∧
        c'.disconnects = c.disconnects ++ [.errc .timedOut]) ∧
      (c.now - since < seconds c.readTimeout → c'.state = .connected ∧
        c'.disconnects = c.disconnects ∧
        c'.readTimer.armed = [⟨since + seconds c.readTimeout, .armed, ()⟩])) ∧
    (∀ e c', c.step cb e = some c' → c'.disconnects = c.disconnects ++ [.errc .timedOut] →
      c.state = .connected ∧ 0 < c.readTimeout ∧ seconds c.readTimeout ≤ c.now - since) := by
  obtain ⟨hruns, hsince⟩ := readRuns_of_reachable hr
  have hrecord : Reachable (watched cb) (fun p e => anyStep p.1 e) (c, since) := hr
  have hreach : Reachable (system cb) anyStep c := hrecord.of_record
  -- while the client is connected, the deadline counts from the last activity
  have hdeadline : c.state = .connected →
      c.timers.deadline = since + seconds c.readTimeout := fun hstate =>
    congrArg (· + seconds c.readTimeout) (hsince hstate)
  refine ⟨fun hstate htimeout => ?_, fun hoff => ?_, ?_, ?_⟩
  · have hon : c.timers.Watching := ⟨hstate, htimeout⟩
    exact ⟨hruns.runs.armed, hruns.runs.live hon, hruns.due hon⟩
  · refine hruns.runs.stopped fun hon => ?_
    rcases hoff with hstate | htimeout
    · exact hstate hon.1
    · exact absurd hon.2 (Int.not_lt.mpr htimeout)
  · intro w c' hfired hstep hstate htimeout
    have hon : c.timers.Watching := ⟨hstate, htimeout⟩
    have heq := hdeadline hstate
    constructor
    · intro hlate
      exact readTimer_late hreach hfired hstep hon (by omega)
    · intro hearly
      rw [← heq]
      exact readTimer_early hfired hstep hon (by omega)
  · intro e c' hstep hlost
    have hne : c'.disconnects ≠ c.disconnects := by simp [hlost]
    by_cases hstate : c.state = .connected
    · cases hending : c.ending e with
      | none =>
        by_cases hok : currentReads c e
        · exact absurd (step_of_up hok hstate hending hstep).2 hne
        · -- a late read is reported with an error of its own
          obtain ⟨-, -, ec, hended⟩ :=
            step_of_lateRead (settled_of_reachable cb hreach) hok hstep
          have hother := hended.disconnects.symm.trans hlost
          simp [Ending.error] at hother
      | some x =>
        have hended := step_of_ending (settled_of_reachable cb hreach) hstate hending hstep
        have herror : x.error = some (.errc .timedOut) := by
          have happend := hended.disconnects.symm.trans hlost
          cases hx : x.error <;> simp_all
        obtain ⟨htimeout, hlate⟩ := ending_of_timedOut hending herror
        have heq := hdeadline hstate
        exact ⟨hstate, htimeout, by omega⟩
    · exact absurd (step_of_notUp hstate hstep) hne

/-- A message arrives one second before the timer fires. The handler finds one second of
the timeout gone, keeps the connection and waits for the other two. -/
theorem read_timeout_exact_messageBeforeExpiry :
    ∃ (c : Client Nat Unit) (since : Int), Reachable (watched .silent) anyStep (c, since) ∧
      c.readTimer.waits = [⟨seconds 3, .fired, ()⟩] ∧
      ∀ c', c.step .silent (.readTimer ⟨seconds 3, .fired, ()⟩) = some c' →
        c'.state = .connected ∧ c'.readTimer.armed = [⟨seconds 5, .armed, ()⟩] := by
  have hran : (run (watched (.silent : Callbacks Nat Unit)) anyStep (create () 0, 0)
      ([.setReadTimeout 3] ++ connectEvents 1 ++ [.advance (2 * 10 ^ 9),
        .complete (.read 1) { received := [1] }, .advance (10 ^ 9),
        .fireReadTimer ⟨seconds 3, .armed, ()⟩])).map
        (fun p => (p.1.readTimer.waits, p.1.state, p.1.now, p.1.readTimeout, p.2)) =
      some ([⟨seconds 3, .fired, ()⟩], .connected, seconds 3, 3, seconds 2) := by decide
  obtain ⟨⟨c, since⟩, hrun, hran⟩ := Option.map_eq_some_iff.mp hran
  simp only [Prod.mk.injEq] at hran
  obtain ⟨hwaits, hstate, hnow, htimeout, rfl⟩ := hran
  have hr : Reachable (watched .silent) anyStep (c, seconds 2) :=
    ⟨_, ⟨⟨(), 0, rfl⟩, rfl⟩, Path.of_run _ hrun⟩
  refine ⟨c, seconds 2, hr, hwaits, fun c' hstep => ?_⟩
  obtain ⟨-, -, hfired, -⟩ := read_timeout_exact hr
  have hearly := (hfired _ c' rfl hstep hstate (by omega)).2
  rw [hnow, htimeout] at hearly
  obtain ⟨hstate', -, harmed⟩ := hearly (by decide)
  exact ⟨hstate', harmed⟩

end Client

end CppComponents.SecureWebSocketClient
