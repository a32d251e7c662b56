import CppComponents.ReconnectingSecureWebSocketClient.Backoff
import CppComponents.SecureWebSocketClient.Disconnects

/-!
# A lost connection is reported once, and reconnected once

A reconnecting client is another system of clients, so the notification rule
applies to it: its connections are ended by its own `close()` and by the failures
of the base client, and what accepts a connect is the ready callback of the
current generation.

`on_unexpected_disconnect()` is also where the session schedules its reconnect.
What is recorded of the timer, and what is armed, changes with that one call.
From then on the base client is disconnected, and until the next accepted connect
nothing arms the timer (`Session.Rests`).
-/

namespace CppComponents.ReconnectingSecureWebSocketClient

open CppComponents.SecureWebSocketClient CppComponents.Transition

variable {U : Type} (u : UserCallbacks U)

/-- What event `e` ends the connection with, if it happens while the connection is
up. -/
def ending (c : ReconnectingClient U) : Event → Option Ending
  | .close _ => some .closed
  | .base e => Client.ending c e
  | _ => none

/-- The event is a ready callback that has its connect accepted. -/
def accepts (c : ReconnectingClient U) : Event → Prop
  | .ready generation _ _ _ =>
    generation = c.owner.session.connectionGeneration ∧
      c.owner.session.reconnectState = .connecting ∧ c.state = .disconnected
  | _ => False

/-- No read of an earlier stream fails while the connection is up. -/
def currentReads : Guard (ReconnectingClient U) Event
  | c, .base e => Client.currentReads c e
  | _, _ => True

instance (c : ReconnectingClient U) (e : Event) : Decidable (accepts c e) :=
  match e with
  | .ready _ _ _ _ => inferInstanceAs (Decidable (_ ∧ _ ∧ _))
  | .connect _ _ | .close _ | .setInitialReconnectDelay _ | .setMaxReconnectDelay _
  | .fireReconnectTimer _ | .reconnectTimer _ | .base _ => isFalse id

instance (c : ReconnectingClient U) (e : Event) : Decidable (currentReads c e) :=
  match e with
  | .base e => inferInstanceAs (Decidable (Client.currentReads c e))
  | .connect _ _ | .close _ | .setInitialReconnectDelay _ | .setMaxReconnectDelay _
  | .ready _ _ _ _ | .fireReconnectTimer _ | .reconnectTimer _ => isTrue trivial

variable {u} {c c' : ReconnectingClient U} {e : Event}

/-! ## Notifications -/

/-- The session's own events are runs of the base client's, so the writes stay settled. -/
theorem settled_step (h : c.Settled) (hstep : step u c e = some c') : c'.Settled := by
  cases step_spec hstep with
  | connect prepareConnection handler => exact Client.settled_runCallback h _
  | close handler =>
    have hstopped : (setSession c c.owner.session.stopReconnecting).Settled :=
      Client.settled_of_writes h rfl
    exact Client.settled_close (callbacks u) hstopped handler
  | setInitialReconnectDelay delay => exact Client.settled_of_writes h rfl
  | setMaxReconnectDelay delay => exact Client.settled_of_writes h rfl
  | ready generation host port resource hprepared =>
    unfold handleConnectionReady
    split
    · exact Client.settled_of_writes h rfl
    · refine Client.settled_doConnect (callbacks u) ?_ _
      exact Client.settled_of_writes h rfl
  | fireReconnectTimer w t hfire =>
    exact Client.settled_of_writes h rfl
  | reconnectTimer w t hdeliver =>
    refine Client.settled_runCallback ?_ _
    exact Client.settled_of_writes h rfl
  | base e c' hinherited hbase => exact Client.settled_step (callbacks u) h hbase

/-- The writes of a reconnecting client are settled in every reachable state. -/
theorem settled_of_reachable (hr : Reachable (system u) anyStep c) : c.Settled := by
  refine hr.invariant ?_ ?_
  · rintro c ⟨user, now, rfl⟩
    exact Client.settled_create _ now
  · intro c e c' h _ hstep
    exact settled_step h hstep

/-- An event of the base client is inherited: neither `connect()` nor `close()` nor a
setting. -/
theorem step_base {e : SecureWebSocketClient.Event Nat} (hstep : step u c (.base e) = some c') :
    isInherited e = true ∧ c.step (callbacks u) e = some c' := by
  cases step_spec hstep with
  | base e c' hinherited hbase => exact ⟨hinherited, hbase⟩

/-- What the subclass adds to the base client notifies nobody. -/
theorem disconnects_step_own (hown : ∀ e', e ≠ .base e') (hstep : step u c e = some c') :
    c'.disconnects = c.disconnects := by
  cases step_spec hstep with
  | connect prepareConnection handler => exact Client.disconnectsFrame.runCallback c _
  | close handler => exact Client.disconnects_close (callbacks u) _ handler
  | setInitialReconnectDelay delay => rfl
  | setMaxReconnectDelay delay => rfl
  | ready generation host port resource hprepared =>
    unfold handleConnectionReady
    split
    · rfl
    · exact Client.disconnects_doConnect (callbacks u) _ _
  | fireReconnectTimer w t hfire =>
    rfl
  | reconnectTimer w t hdeliver =>
    exact Client.disconnectsFrame.runCallback _ _
  | base e' c' hinherited hbase => exact absurd rfl (hown e')

/-- Of what the subclass adds, `close()` and an accepted connect change the state. -/
theorem state_step_own (hown : ∀ e', e ≠ .base e') (hclose : ∀ handler, e ≠ .close handler)
    (hready : ¬ accepts c e) (hstep : step u c e = some c') : c'.state = c.state := by
  cases step_spec hstep with
  | connect prepareConnection handler =>
    exact (Client.stateFrame .silent).runCallback c _
  | close handler => exact absurd rfl (hclose handler)
  | setInitialReconnectDelay delay => rfl
  | setMaxReconnectDelay delay => rfl
  | ready generation host port resource hprepared =>
    unfold handleConnectionReady
    split
    · rfl
    · rename_i hcurrent
      obtain ⟨hgeneration, hconnecting⟩ := not_or.mp hcurrent
      -- the connect is not accepted, so its handler is called
      have hbusy : c.state ≠ .disconnected := fun hstate =>
        hready ⟨Decidable.not_not.mp hgeneration, Decidable.not_not.mp hconnecting, hstate⟩
      refine Client.state_doConnect_of_busy ?_ _
      exact hbusy
  | fireReconnectTimer w t hfire =>
    rfl
  | reconnectTimer w t hdeliver =>
    exact (Client.stateFrame .silent).runCallback _ _
  | base e' c' hinherited hbase => exact absurd rfl (hown e')

/-- An event that does not end the connection leaves it up. -/
theorem step_of_up (hok : currentReads c e) (hconn : c.state = .connected)
    (hnone : ending c e = none) (hstep : step u c e = some c') :
    c'.state = .connected ∧ c'.disconnects = c.disconnects := by
  by_cases hbase : ∃ e', e = .base e'
  · obtain ⟨e', rfl⟩ := hbase
    exact Client.step_of_up hok hconn hnone (step_base hstep).2
  · have hown : ∀ e', e ≠ .base e' := fun e' heq => hbase ⟨e', heq⟩
    have hclose : ∀ handler, e ≠ .close handler := by
      rintro handler rfl
      cases hnone
    have hready : ¬ accepts c e := by
      cases e with
      | ready => simp [accepts, hconn]
      | _ => exact id
    exact ⟨(state_step_own hown hclose hready hstep).trans hconn, disconnects_step_own hown hstep⟩

/-- An ending of the connection is handled by the base client as it handles its own. -/
theorem step_of_ending {x : Ending} (h : c.Settled) (hconn : c.state = .connected)
    (hx : ending c e = some x) (hstep : step u c e = some c') :
    Client.EndedBy (callbacks u) x c c' := by
  cases e with
  | base e => exact Client.step_of_ending h hconn hx (step_base hstep).2
  | close handler =>
    cases hx
    cases hstep
    let stopped := setSession c c.owner.session.stopReconnecting
    have hended : Client.EndedBy (callbacks u) .closed stopped
        (stopped.close (callbacks u) handler) := Client.endedBy_close (c := stopped) hconn handler
    exact ⟨hended.state, hended.closed, hended.lost⟩
  | _ => cases hx

/-- Without a connection no step notifies. -/
theorem step_of_notUp (hstate : c.state ≠ .connected) (hstep : step u c e = some c') :
    c'.disconnects = c.disconnects := by
  by_cases hbase : ∃ e', e = .base e'
  · obtain ⟨e', rfl⟩ := hbase
    exact Client.step_of_notUp hstate (step_base hstep).2
  · exact disconnects_step_own (fun e' heq => hbase ⟨e', heq⟩) hstep

/-- A disconnected client stays so until a base attempt is accepted. -/
theorem step_of_disconnected (hstate : c.state = .disconnected) (hready : ¬ accepts c e)
    (hstep : step u c e = some c') : c'.state = .disconnected := by
  by_cases hbase : ∃ e', e = .base e'
  · obtain ⟨e', rfl⟩ := hbase
    obtain ⟨hinherited, hstep⟩ := step_base hstep
    refine Client.step_of_disconnected hstate ?_ hstep
    cases e' with
    | connect => cases hinherited
    | _ => exact id
  · by_cases hclose : ∃ handler, e = .close handler
    · obtain ⟨handler, rfl⟩ := hclose
      cases hstep
      let stopped := setSession c c.owner.session.stopReconnecting
      have haccepts : ¬ Client.accepts stopped (.close handler) := id
      exact Client.step_of_disconnected (c := stopped) hstate haccepts rfl
    · exact (state_step_own (fun e' heq => hbase ⟨e', heq⟩) (fun h heq => hclose ⟨h, heq⟩) hready
        hstep).trans hstate

/-- A late read that fails ends the connection. -/
theorem step_of_lateRead (h : c.Settled) (hlate : ¬ currentReads c e)
    (hstep : step u c e = some c') :
    c.state = .connected ∧ ending c e = none ∧
      ∃ ec, Client.EndedBy (callbacks u) (.readError ec) c c' := by
  cases e with
  | base e => exact Client.step_of_lateRead h hlate (step_base hstep).2
  | _ => exact absurd trivial hlate

/-- The step facts of the base client, for the client with its session. -/
theorem oneNotification_reconnecting :
    Client.OneNotification (callbacks u) (system u) currentReads accepts ending := by
  refine Client.oneNotification ?_ ?_ ?_ ?_
  · intro c e c' hok hconn hnone hstep
    exact step_of_up hok hconn hnone hstep
  · intro c c' e x hr hconn hx hstep
    exact step_of_ending (settled_of_reachable hr) hconn hx hstep
  · intro c e c' hstate hstep
    exact step_of_notUp hstate hstep
  · intro c e c' hstate hready hstep
    exact step_of_disconnected hstate hready hstep

/-! ## The reconnect timer -/

namespace Session

/-- Between `s` and `s'` the timer was not armed. -/
structure Rests (s s' : Session) : Prop where
  delays : s'.delays = s.delays
  armed : s'.reconnectTimer.armed.Sublist s.reconnectTimer.armed

theorem Rests.refl (s : Session) : s.Rests s := ⟨rfl, .refl _⟩

theorem Rests.trans {s s' s'' : Session} (h : s.Rests s') (h' : s'.Rests s'') : s.Rests s'' :=
  ⟨h'.delays.trans h.delays, h'.armed.trans h.armed⟩

/-- The timer is as it was, and what was recorded is not that it was armed. -/
theorem Rests.of_same {s s' : Session} (hdelays : s'.delays = s.delays)
    (htimer : s'.reconnectTimer = s.reconnectTimer) : s.Rests s' :=
  ⟨hdelays, by rw [htimer]⟩

variable (s : Session)

/-- The next attempt arms no wait. -/
theorem rests_startAttempt : s.Rests s.startAttempt := by
  have hdelays : s.startAttempt.delays = s.delays := congrArg Pacing.delays s.pacing_startAttempt
  refine .of_same hdelays ?_
  unfold startAttempt
  split <;> rfl

/-- A refused `connect()` arms no wait. -/
theorem rests_rejected (handler : Option HandlerId) : s.Rests (s.rejected handler) := by
  have hdelays : (s.rejected handler).delays = s.delays :=
    congrArg Pacing.delays (s.pacing_rejected handler)
  refine .of_same hdelays ?_
  unfold rejected
  split <;> rfl

/-- `close()` arms no wait, and none is left of an idle session. -/
theorem rests_stopReconnecting : s.Rests s.stopReconnecting where
  delays := rfl
  armed := by
    rw [stopReconnecting, SteadyTimer.armed_cancel]
    exact List.nil_sublist _

/-- A wait that comes back arms none. -/
theorem rests_timer {w : Wait Nat} {t : SteadyTimer Nat}
    (harmed : t.armed.Sublist s.reconnectTimer.armed) : s.Rests (s.timer w t) := by
  have hset : s.Rests (s.withTimer t) := ⟨rfl, harmed⟩
  unfold timer
  split
  · exact hset
  · exact hset.trans (s.withTimer t).rests_startAttempt

/-- `schedule_reconnect()` arms one wait, and it is the only one. -/
theorem armed_scheduleReconnect (hstate : s.reconnectState ≠ .idle) (now : Int) :
    (s.scheduleReconnect now).reconnectTimer.armed =
      [⟨now + s.currentReconnectDelay, .armed, s.connectionGeneration⟩] := by
  have hactive : s.isReconnectActive = true := by
    cases hs : s.reconnectState with
    | idle => exact absurd hs hstate
    | _ => simp [isReconnectActive, hs]
  unfold scheduleReconnect
  rw [if_neg (by simp [hactive])]
  show ((s.reconnectTimer.expiresAt (now + s.currentReconnectDelay)).asyncWait
    s.connectionGeneration).armed = _
  rw [SteadyTimer.armed_asyncWait, SteadyTimer.armed_expiresAt]
  rfl

end Session

/-- Without a connection, and until the next accepted connect, no step arms the
timer. -/
theorem rests_step (hstate : c.state = .disconnected) (hready : ¬ accepts c e)
    (hstep : step u c e = some c') : c.owner.session.Rests c'.owner.session := by
  have hsession : ∀ {c' : ReconnectingClient U} {v : View}, view c' = v →
      c.owner.session.Rests v.session → c.owner.session.Rests c'.owner.session := by
    rintro c' v rfl h
    exact h
  cases step_spec hstep with
  | connect prepareConnection handler =>
    refine hsession (view_connect u c prepareConnection handler) ?_
    show c.owner.session.Rests (if _ then _ else _)
    split
    · exact c.owner.session.rests_rejected handler
    · have hopened : c.owner.session.Rests
          (c.owner.session.opened prepareConnection handler) := .of_same rfl rfl
      exact hopened.trans (c.owner.session.opened prepareConnection handler).rests_startAttempt
  | close handler =>
    exact hsession (view_close u c handler) c.owner.session.rests_stopReconnecting
  | setInitialReconnectDelay delay =>
    refine .of_same (congrArg Pacing.delays (c.owner.session.pacing_setInitialReconnectDelay
      delay) |>.trans ?_) ?_
    · unfold Pacing.setInitial
      split <;> rfl
    · show (Session.setInitialReconnectDelay _ _).reconnectTimer = _
      unfold Session.setInitialReconnectDelay
      simp only
      split <;> rfl
  | setMaxReconnectDelay delay =>
    exact .of_same rfl rfl
  | ready generation host port resource hprepared =>
    have hrecorded : c.owner.session.Rests (c.owner.session.record (.ready generation)) :=
      .of_same (congrArg Pacing.delays (c.owner.session.pacing_record rfl)) rfl
    refine hsession (view_handleConnectionReady u _ generation host port resource) ?_
    -- a current ready callback would start an attempt, which the hypothesis rules out
    have hstale : generation ≠ c.owner.session.connectionGeneration ∨
        c.owner.session.reconnectState ≠ .connecting := by
      by_contra hcurrent
      obtain ⟨hgeneration, hconnecting⟩ := not_or.mp hcurrent
      exact hready ⟨Decidable.not_not.mp hgeneration, Decidable.not_not.mp hconnecting, hstate⟩
    rw [View.ready_of_stale host port resource _ hstale]
    exact hrecorded
  | fireReconnectTimer w t ht =>
    have harmed : t.armed.Sublist c.owner.session.reconnectTimer.armed := by
      rw [SteadyTimer.armed_fire ht]
      exact List.erase_sublist
    exact ⟨rfl, harmed⟩
  | reconnectTimer w t ht =>
    refine hsession (view_timer u c w t) (c.owner.session.rests_timer ?_)
    rw [SteadyTimer.armed_deliver ht]
  -- without a connection there is none to lose and no attempt to complete
  | base e c' hinherited hbase =>
    have hbase := baseStep_of_step u hstep
    generalize hv : view c' = v at hbase
    refine hsession hv ?_
    cases hbase with
    | same => exact .refl _
    | lost now _ hconn =>
      rw [show (view c).attempts.state = c.state from rfl, hstate] at hconn
      cases hconn
    | ignored => exact .refl _
    | progress stream phase n handler r rest v' _ _ hconnecting =>
      rw [show (view c).attempts.state = c.state from rfl, hstate] at hconnecting
      cases hconnecting

/-- A base step that ends a connection is the call of `on_unexpected_disconnect()`
for the session. -/
theorem session_of_lost {e : SecureWebSocketClient.Event Nat} (hconn : c.state = .connected)
    (hclosed : c'.state = .disconnected) (hstep : step u c (.base e) = some c') :
    ∃ now, c'.owner.session = c.owner.session.disconnected now := by
  have hbase := baseStep_of_step u hstep
  have hstate : (view c').attempts.state = .disconnected := hclosed
  have hup : (view c).attempts.state = .connected := hconn
  show ∃ now, (view c').session = c.owner.session.disconnected now
  generalize view c' = v at hbase hstate
  cases hbase with
  | same =>
    rw [hup] at hstate
    cases hstate
  | lost now => exact ⟨now, rfl⟩
  | ignored =>
    rw [show (Attempts.complete _ _).state = (view c).attempts.state from rfl, hup] at hstate
    cases hstate
  | progress stream phase n handler r rest v' _ _ hconnecting =>
    rw [hup] at hconnecting
    cases hconnecting

/-- What the end of a connection by `x` makes of the reconnect timer: `s` is the
session before the event, `s₁` after it, and `s'` at any time until the next
accepted connect. -/
structure TimerCourse (x : Ending) (s s₁ s' : Session) : Prop where
  closed : x = .closed → s'.delays = s.delays ∧ s'.reconnectTimer.armed = []
  lost : x ≠ .closed → s.reconnectState = .connected →
    s'.delays = s.delays ++ [s.currentReconnectDelay] ∧
    ∃ expiry, s₁.reconnectTimer.armed = [⟨expiry, .armed, s.connectionGeneration⟩]

/-- The wait after a lost connection is the only one armed until the next base attempt, by
induction on the run. -/
theorem timerCourse {c₁ : ReconnectingClient U} {x : Ending} (hr : Reachable (system u) anyStep c)
    (hconn : c.state = .connected) (hx : ending c e = some x) (hstep : step u c e = some c₁)
    (hrun : Path (system u) (fun c e => ¬ accepts c e) c₁ c') :
    TimerCourse x c.owner.session c₁.owner.session c'.owner.session := by
  have hended := step_of_ending (settled_of_reachable hr) hconn hx hstep
  -- the timer rests from the end of the connection to the next accepted connect
  have hrests : c'.state = .disconnected ∧ c₁.owner.session.Rests c'.owner.session := by
    refine hrun.invariant
      (I := fun t => t.state = .disconnected ∧ c₁.owner.session.Rests t.owner.session) ?_
      ⟨hended.state, .refl _⟩
    intro t e t' h hready ht
    exact ⟨step_of_disconnected h.1 hready ht, h.2.trans (rests_step h.1 hready ht)⟩
  obtain ⟨hdelays, harmed⟩ := hrests.2
  cases e with
  | close handler =>
    cases hx
    cases hstep
    have hsession : (close u c handler).owner.session = c.owner.session.stopReconnecting :=
      congrArg View.session (view_close u c handler)
    rw [hsession] at hdelays harmed
    rw [Session.stopReconnecting, SteadyTimer.armed_cancel] at harmed
    exact ⟨fun _ => ⟨hdelays, List.sublist_nil.mp harmed⟩, fun hne => absurd rfl hne⟩
  | base e =>
    -- a base step ends a connection only with an error
    have hne : x ≠ .closed := by
      rintro rfl
      have herror := Client.close_of_ending_closed hx
      obtain ⟨handler, rfl⟩ := herror
      exact absurd (step_base hstep).1 (by simp [isInherited])
    obtain ⟨now, hsession⟩ := session_of_lost hconn hended.state hstep
    refine ⟨fun heq => absurd heq hne, fun _ hconnected => ?_⟩
    have hschedule : c₁.owner.session = c.owner.session.scheduleReconnect now := by
      rw [hsession, Session.disconnected, if_pos hconnected]
    have hactive : c.owner.session.reconnectState ≠ .idle := by simp [hconnected]
    refine ⟨hdelays.trans ?_, now + c.owner.session.currentReconnectDelay, ?_⟩
    · rw [hschedule]
      exact congrArg Pacing.delays (c.owner.session.pacing_scheduleReconnect hactive now)
    · rw [hschedule]
      exact c.owner.session.armed_scheduleReconnect hactive now
  | _ => cases hx

/-- **One notification for each lost connection**, for a base client with any
callbacks and for a reconnecting client with any user, as long as no read of an earlier
connection fails while the connection is up. Such a read always ends the connection, and
is reported. A connection that is lost by a reconnecting client in state `connected` arms
exactly one reconnect timer; one that `close()` ended arms none. -/
theorem one_notification_per_connection {H σ : Type} [DecidableEq H] (cb : Callbacks H σ)
    (u : UserCallbacks U) :
    Client.OneNotification cb (Client.system cb) Client.currentReads Client.accepts
      Client.ending ∧
    Client.OneNotification (callbacks u) (system u) currentReads accepts ending ∧
    (∀ (c c' : Client H σ) (e : SecureWebSocketClient.Event H),
      Reachable (Client.system cb) anyStep c → ¬ Client.currentReads c e →
      c.step cb e = some c' → c.state = .connected ∧ c.ending e = none ∧
        ∃ ec, Client.EndedBy cb (.readError ec) c c') ∧
    (∀ (c c' : ReconnectingClient U) (e : Event), Reachable (system u) anyStep c →
      ¬ currentReads c e → step u c e = some c' → c.state = .connected ∧ ending c e = none ∧
        ∃ ec, Client.EndedBy (callbacks u) (.readError ec) c c') ∧
    ∀ (c c₁ c' : ReconnectingClient U) (e : Event) (x : Ending),
      Reachable (system u) anyStep c → c.state = .connected → ending c e = some x →
      step u c e = some c₁ → Path (system u) (fun c e => ¬ accepts c e) c₁ c' →
      TimerCourse x c.owner.session c₁.owner.session c'.owner.session := by
  refine ⟨Client.oneNotification_client, oneNotification_reconnecting, ?_, ?_, ?_⟩
  · intro c c' e hr hlate hstep
    exact Client.step_of_lateRead (Client.settled_of_reachable cb hr) hlate hstep
  · intro c c' e hr hlate hstep
    exact step_of_lateRead (settled_of_reachable hr) hlate hstep
  · intro c c₁ c' e x hr hconn hx hstep hrun
    exact timerCourse hr hconn hx hstep hrun

/-- A connection is closed, and before its aborted read has completed the next one is
up. -/
def closeAndConnect : List (SecureWebSocketClient.Event Nat) :=
  Client.connectEvents 1 ++ [.close none] ++ (Client.connectEvents 2).take 4

/-- The aborted read of the first connection ends the second one. -/
theorem not_oneNotification_lateRead :
    ¬ ∀ cb : Callbacks Nat Unit, Client.OneNotification cb (Client.system cb) anyStep
      Client.accepts Client.ending := by
  intro hall
  have hany : (run (Client.system (.silent : Callbacks Nat Unit)) anyStep (Client.create () 0)
      closeAndConnect).any (fun c₀ => c₀.state ≠ .connected ∧
        (c₀.step .silent (.complete (.connect 2 .websocketHandshake 2 none) {})).any (fun c =>
          c.state = .connected ∧
          (run ((Client.system .silent).record none (Client.firstEnding Client.ending))
            (fun p e => anyStep p.1 e ∧ ¬ Client.accepts p.1 e) (c, none)
            [.complete (.read 1) { ec := some .operationAborted }]).any (fun p =>
              p.1.state = .disconnected ∧ p.2 = none) = true) = true) = true := by
    decide
  obtain ⟨c₀, hrun₀, hc₀⟩ := (Option.any_eq_true _ _).mp hany
  obtain ⟨hdown, hup⟩ := of_decide_eq_true hc₀
  obtain ⟨c, hstep, hc⟩ := (Option.any_eq_true _ _).mp hup
  obtain ⟨hconn, hlate⟩ := of_decide_eq_true hc
  obtain ⟨⟨c', first⟩, hrun, hc'⟩ := (Option.any_eq_true _ _).mp hlate
  obtain ⟨hstate, rfl⟩ : c'.state = .disconnected ∧ first = none := of_decide_eq_true hc'
  have hr : Reachable (Client.system .silent) anyStep c₀ := ⟨_, ⟨(), 0, rfl⟩, Path.of_run _ hrun₀⟩
  have hstep : (Client.system .silent).step c₀
    (.complete (.connect 2 .websocketHandshake 2 none) {}) = some c := hstep
  obtain ⟨-, hcourse⟩ :=
    (hall .silent).course c₀ c c' _ none hr hdown hstep hconn (Path.of_run _ hrun)
  exact absurd (hcourse.1.symm.trans hstate) (by decide)

/-- A connection that is up but for its last completion. -/
def beforeHandshake : List Event := [.connect (some 1) (some 2)] ++ (succeed 1).take 4

def handshake : Event := .base (.complete (.connect 1 .websocketHandshake 1 (some 1)) {})

/-- A reconnecting client loses its connection while a message is being sent. The send is
aborted by that, and its completion is not another loss. The timer is armed once. -/
theorem one_notification_per_connection_lostWhileSending :
    (∃ c c' : ReconnectingClient Unit, c.state = .connected ∧
      Path ((system .silent).record none (Client.firstEnding ending))
        (fun p e => currentReads p.1 e ∧ ¬ accepts p.1 e) (c, none)
        (c', some (.readError (.other 1))) ∧
      c'.state = .disconnected ∧ c'.disconnects = c.disconnects ++ [.asio (.other 1)]) ∧
    ∃ c c₁ : ReconnectingClient Unit, step .silent c readError = some c₁ ∧
      c₁.owner.session.delays = c.owner.session.delays ++ [10 ^ 9] ∧
      ∃ w, c₁.owner.session.reconnectTimer.armed = [w] := by
  obtain ⟨-, honce, -, -, htimer⟩ :=
    one_notification_per_connection (.silent : Callbacks Nat Unit) (.silent : UserCallbacks Unit)
  constructor
  · have hany : (run (system (.silent : UserCallbacks Unit)) anyStep
        (Client.create ⟨Session.create 0, ()⟩ 0) beforeHandshake).any (fun c₀ =>
          c₀.state ≠ .connected ∧ (step .silent c₀ handshake).any (fun c => c.state = .connected ∧
            (run ((system .silent).record none (Client.firstEnding ending))
              (fun p e => currentReads p.1 e ∧ ¬ accepts p.1 e) (c, none)
              [.base (.write [1] none), readError, .base (.complete
                (.send 1 0 0 ⟨.message, [1], none⟩)
                { ec := some .operationAborted })]).any (fun p =>
                p.2 = some (.readError (.other 1))) = true) = true) = true := by
      decide
    obtain ⟨c₀, hrun₀, hc₀⟩ := (Option.any_eq_true _ _).mp hany
    obtain ⟨hdown, hup⟩ := of_decide_eq_true hc₀
    obtain ⟨c, hstep, hc⟩ := (Option.any_eq_true _ _).mp hup
    obtain ⟨hconn, hended⟩ := of_decide_eq_true hc
    obtain ⟨⟨c', first⟩, hrun, hfirst⟩ := (Option.any_eq_true _ _).mp hended
    obtain rfl : first = some (.readError (.other 1)) := of_decide_eq_true hfirst
    have hr : Reachable (system .silent) anyStep c₀ := ⟨_, ⟨(), 0, rfl⟩, Path.of_run _ hrun₀⟩
    have hstep : (system .silent).step c₀ handshake = some c := hstep
    have hpath := Path.of_run _ hrun
    obtain ⟨-, hstate, hreported⟩ := honce.course c₀ c c' _ _ hr hdown hstep hconn hpath
    exact ⟨c, c', hconn, hpath, hstate, hreported⟩
  · have hany : (run (system (.silent : UserCallbacks Unit)) anyStep
        (Client.create ⟨Session.create 0, ()⟩ 0) (beforeHandshake ++ [handshake])).any (fun c =>
          c.state = .connected ∧ c.owner.session.reconnectState = .connected ∧
            c.owner.session.currentReconnectDelay = 10 ^ 9 ∧
            ending c readError = some (.readError (.other 1)) ∧
            (step .silent c readError).isSome = true) = true := by
      decide
    obtain ⟨c, hrun, hc⟩ := (Option.any_eq_true _ _).mp hany
    obtain ⟨hconn, hsession, hdelay, hending, hsome⟩ := of_decide_eq_true hc
    obtain ⟨c₁, hstep⟩ := Option.isSome_iff_exists.mp hsome
    have hr : Reachable (system .silent) anyStep c := ⟨_, ⟨(), 0, rfl⟩, Path.of_run _ hrun⟩
    have hlost := (htimer c c₁ c₁ readError _ hr hconn hending hstep (.refl c₁)).lost
    obtain ⟨hdelays, expiry, harmed⟩ := hlost (by decide) hsession
    exact ⟨c, c₁, hstep, hdelay ▸ hdelays, _, harmed⟩

end CppComponents.ReconnectingSecureWebSocketClient
