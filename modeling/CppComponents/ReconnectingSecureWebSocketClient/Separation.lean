import CppComponents.ReconnectingSecureWebSocketClient.Sessions

/-!
# Sessions do not leak into each other

Ready callbacks, connect results and waits of the reconnect timer are delivered
whenever they like. Each carries the generation it was created under, and the
generation of the client grows with every attempt and with every `close()`. The
invariant is `Session.Timed`: no wait is of a later generation, and a wait of
the current one is left exactly when the state is `waiting_reconnect`.
-/

namespace CppComponents.ReconnectingSecureWebSocketClient

open CppComponents.SecureWebSocketClient CppComponents.Transition

variable {U : Type} (u : UserCallbacks U)

/-! ## What the session functions keep -/

def SessionObs.isCall : SessionObs → Bool
  | .prepared .. => true
  | .answered .. => true
  | _ => false

namespace Session

/-- The calls of `prepare_connection` and `connect_handler`. -/
def calls (s : Session) : List SessionObs := s.log.filter (·.isCall)

/-- The waits of the current generation that run unless they are cancelled. -/
def currentWaits (s : Session) : List (Wait Nat) :=
  s.reconnectTimer.live.filter (·.tag = s.connectionGeneration)

variable (s : Session)

@[simp] theorem startAttempt_reconnectTimer : s.startAttempt.reconnectTimer = s.reconnectTimer := by
  unfold startAttempt
  split <;> rfl

@[simp] theorem startAttempt_connectionGeneration :
    s.startAttempt.connectionGeneration = s.connectionGeneration + 1 := by
  unfold startAttempt
  split <;> rfl

@[simp] theorem startAttempt_reconnectState : s.startAttempt.reconnectState = .connecting := by
  unfold startAttempt
  split <;> rfl

@[simp] theorem answer_reconnectTimer (ec : Option ErrorCode) :
    (s.answer ec).reconnectTimer = s.reconnectTimer := by
  unfold answer
  split <;> rfl

@[simp] theorem answer_connectionGeneration (ec : Option ErrorCode) :
    (s.answer ec).connectionGeneration = s.connectionGeneration := by
  unfold answer
  split <;> rfl

@[simp] theorem answer_reconnectState (ec : Option ErrorCode) :
    (s.answer ec).reconnectState = s.reconnectState := by
  unfold answer
  split <;> rfl

/-- A result is ignored unless it is of the current generation and the session is
connecting. -/
theorem connectResult_of_stale {generation : Nat}
    (h : generation ≠ s.connectionGeneration ∨ s.reconnectState ≠ .connecting)
    (ec : Option ErrorCode) (now : Int) : s.connectResult generation ec now = s := if_pos h

theorem result_of_ne (hstate : s.reconnectState ≠ .connecting) (handler : Option Nat)
    (ec : Option ErrorCode) (now : Int) : s.result handler ec now = s := by
  cases handler with
  | none => rfl
  | some generation => exact s.connectResult_of_stale (.inr hstate) ec now

/-! ## Waits -/

/-- A wait of the current generation is left when the session waits, and only
then; and no other wait is armed. -/
structure Timed : Prop where
  tags : ∀ w ∈ s.reconnectTimer.waits, w.tag ≤ s.connectionGeneration
  armed : ∀ w ∈ s.reconnectTimer.armed,
    w.tag = s.connectionGeneration ∧ s.reconnectState = .waitingReconnect
  waiting : s.reconnectState = .waitingReconnect → ∃ w, s.currentWaits = [w]
  passed : s.reconnectState ≠ .waitingReconnect → s.currentWaits = []

variable {s} {s' : Session}

/-- What changes neither the timer, nor the generation, nor whether it waits, keeps the
account of the waits. -/
theorem Timed.of_same (h : s.Timed) (htimer : s'.reconnectTimer = s.reconnectTimer)
    (hgeneration : s'.connectionGeneration = s.connectionGeneration)
    (hstate : s'.reconnectState = .waitingReconnect ↔ s.reconnectState = .waitingReconnect) :
    s'.Timed := by
  have hcurrent : s'.currentWaits = s.currentWaits := by
    rw [currentWaits, htimer, hgeneration, ← currentWaits]
  constructor
  · rw [htimer, hgeneration]
    exact h.tags
  · rw [htimer, hgeneration, hstate]
    exact h.armed
  · rw [hcurrent, hstate]
    exact h.waiting
  · rw [hcurrent, ne_eq, hstate]
    exact h.passed

theorem Timed.armed_eq_nil (h : s.Timed) (hstate : s.reconnectState ≠ .waitingReconnect) :
    s.reconnectTimer.armed = [] := by
  rw [List.eq_nil_iff_forall_not_mem]
  intro w hw
  exact hstate (h.armed w hw).2

/-- Without an armed wait, no wait is of the next generation. -/
theorem timed_of_next (htags : ∀ w ∈ s.reconnectTimer.waits, w.tag ≤ s.connectionGeneration)
    (harmed : s'.reconnectTimer.armed = [])
    (hwaits : ∀ w ∈ s'.reconnectTimer.waits, ∃ v ∈ s.reconnectTimer.waits, v.tag = w.tag)
    (hgeneration : s'.connectionGeneration = s.connectionGeneration + 1)
    (hstate : s'.reconnectState ≠ .waitingReconnect) : s'.Timed := by
  have hle : ∀ w ∈ s'.reconnectTimer.waits, w.tag ≤ s.connectionGeneration := by
    intro w hw
    obtain ⟨v, hv, htag⟩ := hwaits w hw
    exact htag ▸ htags v hv
  constructor
  · intro w hw
    exact (hle w hw).trans (hgeneration ▸ Nat.le_succ _)
  · intro w hw
    rw [harmed] at hw
    cases hw
  · exact fun hwait => absurd hwait hstate
  · intro _
    rw [currentWaits, List.filter_eq_nil_iff]
    intro w hw
    have := hle w (List.mem_filter.mp hw).1
    simp only [hgeneration, decide_eq_true_eq]
    omega

/-- The next attempt has a new generation, so every wait that is left is an old one. -/
theorem timed_startAttempt
    (htags : ∀ w ∈ s.reconnectTimer.waits, w.tag ≤ s.connectionGeneration)
    (harmed : s.reconnectTimer.armed = []) : s.startAttempt.Timed :=
  timed_of_next htags (by simpa using harmed)
    (fun w hw => ⟨w, by simpa using hw, rfl⟩) (by simp) (by simp)

/-- `stop_reconnecting()` cancels the wait and leaves the generation behind. -/
theorem Timed.stopReconnecting (h : s.Timed) : s.stopReconnecting.Timed := by
  refine timed_of_next h.tags (SteadyTimer.armed_cancel _) ?_ rfl (fun hstate => by cases hstate)
  intro w hw
  obtain ⟨v, hv, htag, -⟩ := SteadyTimer.exists_of_mem_cancel hw
  exact ⟨v, hv, htag⟩

/-- `schedule_reconnect()` adds the one wait of the current generation. -/
theorem Timed.scheduleReconnect (h : s.Timed) (hstate : s.reconnectState ≠ .waitingReconnect)
    (now : Int) : (s.scheduleReconnect now).Timed := by
  unfold Session.scheduleReconnect
  split
  · exact h
  -- no wait is armed yet, so `expires_after()` cancels none
  · have hcancel := SteadyTimer.cancel_of_armed_eq_nil (h.armed_eq_nil hstate)
    let w : Wait Nat := ⟨now + s.currentReconnectDelay, .armed, s.connectionGeneration⟩
    let t := (s.reconnectTimer.expiresAt (now + s.currentReconnectDelay)).asyncWait
      s.connectionGeneration
    have hwaits : t.waits = s.reconnectTimer.waits ++ [w] := by
      simp only [t, SteadyTimer.asyncWait, SteadyTimer.expiresAt, hcancel]
      rfl
    have hlive : t.live = s.reconnectTimer.live ++ [w] := by
      simp only [t, SteadyTimer.live_asyncWait, SteadyTimer.expiresAt, hcancel]
      rfl
    have harmed : t.armed = [w] := by
      simp only [t, SteadyTimer.armed_asyncWait, SteadyTimer.armed_expiresAt]
      rfl
    constructor
    · intro v hv
      have hv : v ∈ t.waits := hv
      rw [hwaits] at hv
      rcases List.mem_append.mp hv with hv | hv
      · exact h.tags v hv
      · rw [List.mem_singleton.mp hv]
        exact Nat.le_refl _
    · intro v hv
      have hv : v ∈ t.armed := hv
      rw [harmed, List.mem_singleton] at hv
      exact ⟨congrArg Wait.tag hv, rfl⟩
    · intro _
      have hold : s.reconnectTimer.live.filter (·.tag = s.connectionGeneration) = [] :=
        h.passed hstate
      refine ⟨w, ?_⟩
      show t.live.filter (·.tag = s.connectionGeneration) = [w]
      rw [hlive, List.filter_append, hold]
      simp [w]
    · exact fun hne => absurd rfl hne

theorem Timed.answer (h : s.Timed) (ec : Option ErrorCode) : (s.answer ec).Timed :=
  h.of_same (by simp) (by simp) (by simp)

theorem Timed.record (h : s.Timed) (o : SessionObs) : (s.record o).Timed :=
  h.of_same rfl rfl .rfl

/-- A failed attempt schedules the next one, and a success arms nothing. -/
theorem Timed.connectResult (h : s.Timed) (generation : Nat) (ec : Option ErrorCode) (now : Int) :
    (s.connectResult generation ec now).Timed := by
  unfold Session.connectResult
  split
  · exact h
  · rename_i hcurrent
    have hstate : s.reconnectState = .connecting :=
      Decidable.not_not.mp (not_or.mp hcurrent).2
    cases ec with
    | some e => exact (h.answer (some e)).scheduleReconnect (by simp [hstate]) now
    | none =>
      have hestablished : s.established.Timed :=
        h.of_same rfl rfl (by simp [established, hstate])
      exact hestablished.answer none

theorem Timed.result (h : s.Timed) (handler : Option Nat) (ec : Option ErrorCode) (now : Int) :
    (s.result handler ec now).Timed := by
  cases handler with
  | none => exact h
  | some generation => exact h.connectResult generation ec now

/-- A session that was connected schedules the next attempt. -/
theorem Timed.disconnected (h : s.Timed) (now : Int) : (s.disconnected now).Timed := by
  unfold Session.disconnected
  split
  · rename_i hstate
    exact h.scheduleReconnect (by simp [hstate]) now
  · exact h

/-- A wait that expires is still left until its handler runs. -/
theorem Timed.fire (h : s.Timed) {w : Wait Nat} {now : Int} {t : SteadyTimer Nat}
    (hfire : s.reconnectTimer.fire w now = some t) : (s.withTimer t).Timed := by
  obtain ⟨hw, -, ht⟩ := SteadyTimer.fire_eq_some hfire
  obtain ⟨htag, hstate⟩ := h.armed w hw
  constructor
  · intro v hv
    have hv : v ∈ t.waits := hv
    rw [ht] at hv
    rcases List.mem_append.mp hv with hv | hv
    · exact h.tags v (List.mem_of_mem_erase hv)
    · rw [List.mem_singleton.mp hv]
      exact h.tags w (SteadyTimer.armed_subset_waits hw)
  · intro v hv
    have hv : v ∈ t.armed := hv
    rw [SteadyTimer.armed_fire hfire] at hv
    exact h.armed v (List.mem_of_mem_erase hv)
  · intro _
    obtain ⟨v, hv⟩ := h.waiting hstate
    have hlive : w ∈ s.reconnectTimer.live := by
      have hmem := List.mem_filter.mp hw
      exact List.mem_filter.mpr ⟨hmem.1, by simpa using (by simp_all : w.status ≠ .aborted)⟩
    have hcurrent : w ∈ s.currentWaits := List.mem_filter.mpr ⟨hlive, by simpa using htag⟩
    obtain rfl : w = v := List.mem_singleton.mp (hv ▸ hcurrent)
    refine ⟨{ w with status := .fired }, ?_⟩
    show t.live.filter (·.tag = s.connectionGeneration) = _
    have herase : (s.reconnectTimer.live.erase w).filter (·.tag = s.connectionGeneration) = [] := by
      rw [← List.erase_filter]
      exact (congrArg (List.erase · w) hv).trans (by simp)
    rw [SteadyTimer.live_fire hfire, List.filter_append, herase]
    simp [htag]
  · exact fun hne => absurd hstate hne

/-- What is left when a wait is delivered. -/
theorem currentWaits_deliver {w : Wait Nat} {t : SteadyTimer Nat}
    (hdeliver : s.reconnectTimer.deliver w = some t) :
    (s.withTimer t).currentWaits = s.currentWaits.erase w := by
  show t.live.filter (·.tag = s.connectionGeneration) = _
  rw [SteadyTimer.live_deliver hdeliver, ← List.erase_filter]
  rfl

/-- The delivery of a wait that is cancelled or of another generation. -/
theorem Timed.deliver (h : s.Timed) {w : Wait Nat} {t : SteadyTimer Nat}
    (hdeliver : s.reconnectTimer.deliver w = some t)
    (hother : w.status = .aborted ∨ w.tag ≠ s.connectionGeneration ∨
      s.reconnectState ≠ .waitingReconnect) : (s.withTimer t).Timed := by
  have hnot : w ∉ s.currentWaits := by
    intro hw
    obtain ⟨hlive, htag⟩ := List.mem_filter.mp hw
    have hstatus := (List.mem_filter.mp hlive).2
    rcases hother with haborted | hne | hstate
    · simp [haborted] at hstatus
    · exact hne (by simpa using htag)
    · rw [h.passed hstate] at hw
      cases hw
  have hcurrent : (s.withTimer t).currentWaits = s.currentWaits := by
    rw [currentWaits_deliver hdeliver, List.erase_of_not_mem hnot]
  obtain ⟨-, -, ht⟩ := SteadyTimer.deliver_eq_some hdeliver
  constructor
  · intro v hv
    have hv : v ∈ t.waits := hv
    rw [ht] at hv
    exact h.tags v (List.mem_of_mem_erase hv)
  · intro v hv
    have hv : v ∈ t.armed := hv
    rw [SteadyTimer.armed_deliver hdeliver] at hv
    exact h.armed v hv
  · rw [hcurrent]
    exact h.waiting
  · rw [hcurrent]
    exact h.passed

/-- The delivery of the wait the session waits for starts the next attempt. -/
theorem Timed.deliverCurrent (h : s.Timed) {w : Wait Nat} {t : SteadyTimer Nat}
    (hdeliver : s.reconnectTimer.deliver w = some t) (hstatus : w.status ≠ .aborted)
    (htag : w.tag = s.connectionGeneration) (hstate : s.reconnectState = .waitingReconnect) :
    (s.withTimer t).startAttempt.Timed := by
  obtain ⟨hmem, harmed, ht⟩ := SteadyTimer.deliver_eq_some hdeliver
  refine timed_startAttempt ?_ ?_
  · intro v hv
    have hv : v ∈ t.waits := hv
    rw [ht] at hv
    exact h.tags v (List.mem_of_mem_erase hv)
  · show t.armed = []
    rw [SteadyTimer.armed_deliver hdeliver, List.eq_nil_iff_forall_not_mem]
    intro v hv
    -- an armed wait would be a second one of the current generation
    obtain ⟨x, hx⟩ := h.waiting hstate
    have hcurrent : ∀ y ∈ s.reconnectTimer.waits, y.status ≠ .aborted →
        y.tag = s.connectionGeneration → y = x := by
      intro y hy hlive hytag
      have hy : y ∈ s.currentWaits :=
        List.mem_filter.mpr ⟨List.mem_filter.mpr ⟨hy, by simpa using hlive⟩, by simpa using hytag⟩
      exact List.mem_singleton.mp (hx ▸ hy)
    have hv' := List.mem_filter.mp hv
    have hvstatus : v.status = .armed := by simpa using hv'.2
    have hwx := hcurrent w hmem hstatus htag
    have hvx := hcurrent v hv'.1 (by simp [hvstatus]) (h.armed v hv).1
    rw [hwx, ← hvx] at harmed
    exact harmed hvstatus

/-- There is at most one armed wait, since there is at most one of the current generation. -/
theorem Timed.length_armed (h : s.Timed) : s.reconnectTimer.armed.length ≤ 1 := by
  by_cases hstate : s.reconnectState = .waitingReconnect
  · obtain ⟨w, hw⟩ := h.waiting hstate
    have htags : s.reconnectTimer.armed.filter (·.tag = s.connectionGeneration) =
        s.reconnectTimer.armed :=
      List.filter_eq_self.mpr fun v hv => by simpa using (h.armed v hv).1
    have hsub : s.reconnectTimer.armed.Sublist s.reconnectTimer.live :=
      List.monotone_filter_right _ fun v hv => by
        have hv : v.status = .armed := by simpa using hv
        simp [hv]
    have hlen := (hsub.filter (·.tag = s.connectionGeneration)).length_le
    rw [htags] at hlen
    exact hlen.trans (Nat.le_of_eq (congrArg List.length hw))
  · simp [h.armed_eq_nil hstate]

/-- The handler of a wait starts the next attempt, or belongs to an older generation. -/
theorem Timed.timer (h : s.Timed) {w : Wait Nat} {t : SteadyTimer Nat}
    (hdeliver : s.reconnectTimer.deliver w = some t) : (s.timer w t).Timed := by
  unfold Session.timer
  split
  · rename_i hother
    exact h.deliver hdeliver hother
  · rename_i hcurrent
    obtain ⟨hstatus, hcurrent⟩ := not_or.mp hcurrent
    obtain ⟨htag, hstate⟩ := not_or.mp hcurrent
    exact h.deliverCurrent hdeliver hstatus (Decidable.not_not.mp htag)
      (Decidable.not_not.mp hstate)

end Session

/-- The ready callback connects the base client and leaves the timer alone. -/
theorem timed_ready {v : View} (h : v.session.Timed) (generation : Nat)
    (host port resource : String) (now : Int) :
    (v.ready generation host port resource now).session.Timed := by
  unfold View.ready
  split
  · exact h
  · simp only
    split
    · exact h
    · exact h.connectResult generation (some (.errc .alreadyConnected)) now

/-- A step of the base client reaches the session through its result or its disconnect
only. -/
theorem timed_baseStep {v v' : View} {e : SecureWebSocketClient.Event Nat} (h : v.session.Timed)
    (hstep : v.BaseStep e v') : v'.session.Timed := by
  cases hstep with
  | same => exact h
  | lost now => exact h.disconnected now
  | ignored => exact h
  | progress stream phase n handler r rest v' _ _ _ hprogress =>
    cases hprogress with
    | failed ec now => exact h.result handler _ now
    | started => exact h
    | connected now => exact h.result handler none now

/-- Each event keeps the account of the waits. -/
theorem timed_step {c c' : ReconnectingClient U} {e : Event} (h : c.owner.session.Timed)
    (hstep : step u c e = some c') : c'.owner.session.Timed := by
  show (view c').session.Timed
  cases step_spec hstep with
  | connect prepareConnection handler =>
    rw [view_connect]
    split
    · cases handler with
      | none => exact h
      | some handler => exact h.record (.rejected handler)
    · rename_i hidle
      have hidle : c.owner.session.reconnectState = .idle := Decidable.not_not.mp hidle
      -- the waits that are left carry a generation that is over
      exact Session.timed_startAttempt h.tags (h.armed_eq_nil (by simp [hidle]))
  | close handler =>
    rw [view_close]
    exact h.stopReconnecting
  | setInitialReconnectDelay delay =>
    unfold Session.setInitialReconnectDelay
    simp only
    split
    · exact h.of_same rfl rfl .rfl
    · exact h.of_same rfl rfl .rfl
  | setMaxReconnectDelay delay =>
    exact h.of_same rfl rfl .rfl
  | ready generation host port resource hprepared =>
    rw [view_handleConnectionReady]
    exact timed_ready (h.record (.ready generation)) ..
  | fireReconnectTimer w t hfire =>
    exact h.fire hfire
  | reconnectTimer w t hdeliver =>
    rw [view_timer]
    exact h.timer hdeliver
  | base e c' hinherited hbase => exact timed_baseStep h (baseStep_of_step u hstep)

/-- In every reachable state the waits are those of the session's own state. -/
theorem timed_of_reachable {ok : Guard (ReconnectingClient U) Event} {c : ReconnectingClient U}
    (hr : Reachable (system u) ok c) : c.owner.session.Timed := by
  refine hr.invariant (I := fun c => c.owner.session.Timed) ?_ ?_
  · rintro c ⟨user, now, rfl⟩
    constructor
    · intro w hw
      cases hw
    · intro w hw
      cases hw
    · intro hstate
      cases hstate
    · exact fun _ => rfl
  · intro c e c' h _ hstep
    exact timed_step u h hstep

/-! ## A closed session -/

/-- Nothing but an accepted `connect()` is excluded. -/
def untilConnect : Guard (ReconnectingClient U) Event
  | c, .connect _ _ => c.owner.session.reconnectState ≠ .idle
  | _, _ => True

instance (c : ReconnectingClient U) (e : Event) : Decidable (untilConnect c e) :=
  match e with
  | .connect _ _ => inferInstanceAs (Decidable (_ ≠ _))
  | .close _ | .setInitialReconnectDelay _ | .setMaxReconnectDelay _ | .ready _ _ _ _
  | .fireReconnectTimer _ | .reconnectTimer _ | .base _ => isTrue trivial

/-- What a closed session keeps. -/
def Closed (c₁ c : ReconnectingClient U) : Prop :=
  c.owner.session.reconnectState = .idle ∧ c.owner.session.calls = c₁.owner.session.calls ∧
    c.attempt = c₁.attempt

/-- While nobody calls `connect()`, a closed session calls nobody and attempts nothing. -/
theorem closed_step {c₁ c c' : ReconnectingClient U} {e : Event} (h : Closed c₁ c)
    (hok : untilConnect c e) (hstep : step u c e = some c') : Closed c₁ c' := by
  obtain ⟨hidle, hcalls, hattempt⟩ := h
  -- it is enough that the view shows an idle session, no new call and no new attempt
  have hview : ∀ v : View, view c' = v → v.session.reconnectState = .idle →
      v.session.calls = c.owner.session.calls → v.attempts.current = c.attempt →
      Closed c₁ c' := by
    rintro v rfl hstate hcalls' hattempt'
    exact ⟨hstate, hcalls'.trans hcalls, hattempt'.trans hattempt⟩
  cases step_spec hstep with
  | connect => exact absurd hidle hok
  | close handler =>
    refine hview _ (view_close u c handler) rfl rfl ?_
    unfold Attempts.close
    split_ifs <;> rfl
  | setInitialReconnectDelay delay =>
    refine hview _ rfl ?_ ?_ rfl
    · simp [view, setSession, Session.setInitialReconnectDelay, hidle]
    · simp [view, setSession, Session.setInitialReconnectDelay, hidle, Session.calls]
  | setMaxReconnectDelay delay => exact hview _ rfl hidle rfl rfl
  | ready generation host port resource hprepared =>
    -- a ready callback of the closed session finds it idle
    have hne : (c.owner.session.record (.ready generation)).reconnectState ≠ .connecting := by
      simp [Session.record, hidle]
    refine hview _ ((view_handleConnectionReady u _ generation host port resource).trans
      (if_pos (.inr hne))) hidle ?_ rfl
    simp [view, setSession, Session.calls, Session.record, SessionObs.isCall]
  | fireReconnectTimer w t hfire =>
    exact hview _ rfl hidle rfl rfl
  | reconnectTimer w t hdeliver =>
    have hne : c.owner.session.reconnectState ≠ .waitingReconnect := by simp [hidle]
    -- so does a wait that had already fired
    have hsession : c.owner.session.timer w t = c.owner.session.withTimer t :=
      if_pos (.inr (.inr hne))
    refine hview _ (view_timer u c w t) ?_ ?_ rfl
    · rw [hsession]
      exact hidle
    · rw [hsession]
      rfl
  | base e c' hinherited hbase =>
    have hne : c.owner.session.reconnectState ≠ .connecting := by simp [hidle]
    have hbase := baseStep_of_step u hstep
    generalize hv : view c' = v' at hbase
    cases hbase with
    | same => exact hview _ hv hidle rfl rfl
    | lost now =>
      have hsession : c.owner.session.disconnected now = c.owner.session :=
        if_neg (by simp [hidle])
      refine hview _ hv ?_ ?_ rfl
      · exact (congrArg Session.reconnectState hsession).trans hidle
      · exact congrArg Session.calls hsession
    | ignored => exact hview _ hv hidle rfl rfl
    | progress stream phase n handler r rest v' _ _ _ hprogress =>
      have hsession : ∀ ec now, c.owner.session.result handler ec now = c.owner.session :=
        c.owner.session.result_of_ne hne handler
      cases hprogress with
      | failed ec now =>
        refine hview _ hv ?_ ?_ rfl
        · exact (congrArg Session.reconnectState (hsession _ now)).trans hidle
        · exact congrArg Session.calls (hsession _ now)
      | started => exact hview _ hv hidle rfl rfl
      | connected now =>
        refine hview _ hv ?_ ?_ rfl
        · exact (congrArg Session.reconnectState (hsession _ now)).trans hidle
        · exact congrArg Session.calls (hsession _ now)

/-! ## Separation -/

/-- What was created under another generation than the current one. -/
inductive IsStale (c : ReconnectingClient U) : Event → Prop where
  | ready (generation : Nat) (host port resource : String) :
      generation ≠ c.owner.session.connectionGeneration →
      IsStale c (.ready generation host port resource)
  | result (stream : Nat) (phase : Phase) (n generation : Nat) (r : Completion) :
      generation ≠ c.owner.session.connectionGeneration →
      IsStale c (.base (.complete (.connect stream phase n (some generation)) r))
  | timer (w : Wait Nat) : w.tag ≠ c.owner.session.connectionGeneration →
      IsStale c (.reconnectTimer w)

/-- The session is the same, apart from its timer. -/
structure View.SameSession (v v' : View) : Prop where
  reconnectState : v'.session.reconnectState = v.session.reconnectState
  connectionGeneration : v'.session.connectionGeneration = v.session.connectionGeneration
  currentReconnectDelay : v'.session.currentReconnectDelay = v.session.currentReconnectDelay
  target : v'.host = v.host ∧ v'.port = v.port ∧ v'.resource = v.resource
  calls : v'.session.calls = v.session.calls

/-- The base client may change alone. -/
theorem View.sameSession_attempts (v : View) (attempts : Attempts Nat) :
    v.SameSession { v with attempts := attempts } := ⟨rfl, rfl, rfl, ⟨rfl, rfl, rfl⟩, rfl⟩

/-- A ready callback, a result or a wait of an older generation changes nothing of the
session. -/
theorem sameSession_of_stale {c c' : ReconnectingClient U} {e : Event} (hstale : IsStale c e)
    (hstep : step u c e = some c') : (view c).SameSession (view c') := by
  cases hstale with
  | ready generation host port resource hne =>
    cases step_spec hstep with
    | ready generation host port resource hprepared =>
      rw [handleConnectionReady, if_pos (.inl hne)]
      refine ⟨rfl, rfl, rfl, ⟨rfl, rfl, rfl⟩, ?_⟩
      simp [view, setSession, Session.calls, Session.record, SessionObs.isCall]
  | timer w hne =>
    cases step_spec hstep with
    | reconnectTimer w t hdeliver =>
      rw [view_timer, Session.timer, if_pos (.inr (.inl hne))]
      exact ⟨rfl, rfl, rfl, ⟨rfl, rfl, rfl⟩, rfl⟩
  | result stream phase n generation r hne =>
    have hbase := baseStep_of_step u hstep
    generalize view c' = v' at hbase
    cases hbase with
    | same => exact (view c).sameSession_attempts _
    | lost now htransfer => cases htransfer
    | ignored => exact (view c).sameSession_attempts _
    | progress stream phase n handler r rest v' he _ _ hprogress =>
      cases he
      -- the result reaches the session with its old generation, and is dropped there
      have hresult : ∀ ec now, (view c).session.result (some generation) ec now =
          (view c).session :=
        c.owner.session.connectResult_of_stale (.inl hne)
      cases hprogress with
      | failed ec now =>
        simp only [hresult]
        exact (view c).sameSession_attempts _
      | started => exact (view c).sameSession_attempts _
      | connected now =>
        simp only [hresult]
        exact (view c).sameSession_attempts _

/-- What keeps the sessions of a client apart. -/
structure Separate (c : ReconnectingClient U) : Prop where
  /-- a closed session stays closed until the next `connect()` -/
  closed : ∀ handler c₁ c₂, step u c (.close handler) = some c₁ →
    Path (system u) untilConnect c₁ c₂ → Closed c₁ c₂
  stale : ∀ e c', IsStale c e → step u c e = some c' → (view c).SameSession (view c')
  armed : c.owner.session.reconnectTimer.armed.length ≤ 1
  waiting : c.owner.session.reconnectTimer.armed ≠ [] →
    c.owner.session.reconnectState = .waitingReconnect

/-- **Sessions do not leak into each other**, in any run. -/
theorem sessions_separate {c : ReconnectingClient U} (hr : Reachable (system u) anyStep c) :
    Separate u c := by
  have htimed := timed_of_reachable u hr
  constructor
  · intro handler c₁ c₂ hclose hpath
    refine hpath.invariant (I := Closed c₁) (fun _ _ _ h hok hstep => closed_step u h hok hstep) ?_
    cases hclose
    refine ⟨?_, rfl, rfl⟩
    exact congrArg (fun v : View => v.session.reconnectState) (view_close u c handler)
  · exact fun e c' hstale hstep => sameSession_of_stale u hstale hstep
  · exact htimed.length_armed
  · intro hne
    obtain ⟨w, hw⟩ := List.exists_mem_of_ne_nil _ hne
    exact (htimed.armed w hw).2

/-- A session whose base client is resolving. -/
def resolving : List Event :=
  [.connect (some 1) (some 2), .ready 1 "host" "443" "/"]

/-- After `close()`, the ready callback is invoked again and the cancelled
`async_resolve` completes. -/
theorem sessions_separate_resolving :
    ∃ c c₁ c₂ : ReconnectingClient Unit,
      run (system .silent) anyStep (Client.create ⟨Session.create 0, ()⟩ 0) resolving = some c ∧
      step .silent c (.close none) = some c₁ ∧
      run (system .silent) untilConnect c₁ [.ready 1 "host" "443" "/",
        .base (.complete (.connect 1 .resolve 1 (some 1)) { ec := some .operationAborted })] =
          some c₂ ∧
      Closed c₁ c₂ := by
  have hsome : ((run (system (.silent : UserCallbacks Unit)) anyStep
      (Client.create ⟨Session.create 0, ()⟩ 0) resolving).bind fun c =>
      (step .silent c (.close none)).bind fun c₁ =>
      (run (system .silent) untilConnect c₁ [.ready 1 "host" "443" "/",
        .base (.complete (.connect 1 .resolve 1 (some 1)) { ec := some .operationAborted })]).map
          fun _ => ()) = some () := by
    decide
  obtain ⟨c, hrun, hsome⟩ := Option.bind_eq_some_iff.mp hsome
  obtain ⟨c₁, hclose, hsome⟩ := Option.bind_eq_some_iff.mp hsome
  obtain ⟨c₂, hlate, -⟩ := Option.map_eq_some_iff.mp hsome
  have hr : Reachable (system (.silent : UserCallbacks Unit)) anyStep c :=
    ⟨_, ⟨(), 0, rfl⟩, Path.of_run resolving hrun⟩
  exact ⟨c, c₁, c₂, hrun, hclose, hlate,
    (sessions_separate .silent hr).closed none c₁ c₂ hclose (Path.of_run _ hlate)⟩

end CppComponents.ReconnectingSecureWebSocketClient
