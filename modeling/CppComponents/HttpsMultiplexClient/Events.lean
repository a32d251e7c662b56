import CppComponents.HttpsMultiplexClient.Sockets

/-!
# No event that curl waits for is lost

Waits are one-shot. A wait is used up when its handler runs, and cancelled when
curl changes its interest in the socket or asks for another timeout; each time
the client has to start a new one, or curl will not hear of what it waits for.

`Covered` says that it does for the sockets: what curl wants of a socket in the
map is what `socket_actions` has, and each direction of it is waited for. While
`event_callback()` runs, the wait it was called for is `missing`. `Timed` says
it for the timer. It fails when `event_callback()` or `do_cancel()` cancel the
timer after the last transfer, and holds again when the next handle is added.
-/

namespace CppComponents.HttpsMultiplexClient

open CppComponents.Transition

variable {H : Type}

namespace Io

/-! ## The waits of the sockets -/

/-- Every event that curl wants of a socket in the map is waited for, or `missing`. -/
def Covered (s : Io) (missing : Nat → Direction → Prop) : Prop :=
  ∀ fd id, s.socketMap.lookup fd = some id → ∀ direction,
    (s.interest fd).includes direction = true →
      s.socketActions.lookup fd = some (s.interest fd) ∧
        ((s.sockets id).Live direction ∨ missing id direction)

variable {s : Io} {missing : Nat → Direction → Prop}

/-- The new interest is waited for at once. -/
theorem Covered.setSocket (h : s.Covered missing) (ht : s.Tracked) (fd : Nat)
    (action : CurlPoll) : (s.setSocket fd action).Covered missing := by
  rcases hlookup : s.socketMap.lookup fd with _ | id
  · rw [setSocket_of_none hlookup]
    intro fd' id' hid' direction hdirection
    have hne : fd' ≠ fd := by
      rintro rfl
      have hid' : s.socketMap.lookup fd' = some id' := hid'
      rw [hlookup] at hid'
      cases hid'
    simp only [Function.update_of_ne hne] at hdirection ⊢
    exact h fd' id' hid' direction hdirection
  · obtain ⟨hopen, hfd⟩ := ht.mapped fd id hlookup
    rw [setSocket_of_some hlookup]
    intro fd' id' hid' direction hdirection
    have hid' : s.socketMap.lookup fd' = some id' := hid'
    by_cases hne : fd' = fd
    · -- the socket curl has set is watched anew in each direction
      subst hne
      obtain rfl : id = id' := Option.some.inj (hlookup.symm.trans hid')
      simp only [Function.update_self] at hdirection ⊢
      exact ⟨AList.lookup_insert _, .inl (TcpSocket.live_armWatches (s := (s.sockets id).cancel)
        hopen hdirection)⟩
    · have hid : id' ≠ id := by
        rintro rfl
        exact hne ((ht.mapped fd' id' hid').2.symm.trans hfd)
      simp only [Function.update_of_ne hne, Function.update_of_ne hid] at hdirection ⊢
      rw [AList.lookup_insert_ne hne]
      exact h fd' id' hid' direction hdirection

/-- A socket that is removed wants nothing any more. -/
theorem Covered.removeSocket (h : s.Covered missing) (fd : Nat) :
    (s.removeSocket fd).Covered missing := by
  intro fd' id hid direction hdirection
  have hne : fd' ≠ fd := by
    rintro rfl
    simp [Io.removeSocket, CurlPoll.includes] at hdirection
  simp only [Io.removeSocket, Function.update_of_ne hne] at hdirection ⊢
  rw [AList.lookup_erase_ne hne]
  exact h fd' id hid direction hdirection

/-- Curl has no interest yet in a socket that it opens. -/
theorem Covered.openSocket (h : s.Covered missing) (ht : s.Tracked) (choice : Nat) :
    (s.openSocket choice).Covered missing := by
  rw [ht.openSocket_eq choice]
  intro fd id hid direction hdirection
  have hne : fd ≠ s.freeDescriptor choice := by
    rintro rfl
    simp [CurlPoll.includes] at hdirection
  simp only [Function.update_of_ne hne, AList.lookup_insert_ne hne] at hid hdirection ⊢
  have hid' : id ≠ s.opened := by
    rintro rfl
    exact Nat.lt_irrefl _ (ht.owned _ (ht.isOpen _ (ht.mapped fd _ hid).1).2)
  rw [Function.update_of_ne hid']
  exact h fd id hid direction hdirection

/-- A released socket is out of the map. -/
theorem Covered.releaseSocket (h : s.Covered missing) (ht : s.Tracked) (id : Nat) :
    (s.releaseSocket id).Covered missing := by
  rcases hlookup : s.socketMap.lookup (s.sockets id).fd with _ | mapped
  · rw [releaseSocket_of_none hlookup]
    intro fd other hother direction hdirection
    have hne : fd ≠ (s.sockets id).fd := by
      rintro rfl
      have hother : s.socketMap.lookup (s.sockets id).fd = some other := hother
      rw [hlookup] at hother
      cases hother
    simp only
    rw [AList.lookup_erase_ne hne]
    exact h fd other hother direction hdirection
  · rw [releaseSocket_of_some hlookup]
    intro fd other hother direction hdirection
    have hmap : (s.socketMap.erase (s.sockets id).fd).lookup fd = some other := hother
    have hne : fd ≠ (s.sockets id).fd := by
      rintro rfl
      rw [AList.lookup_erase] at hmap
      cases hmap
    rw [AList.lookup_erase_ne hne] at hmap
    have hmapped : other ≠ mapped := by
      intro heq
      refine hne ((ht.mapped fd other hmap).2.symm.trans ?_)
      rw [heq, (ht.mapped _ _ hlookup).2]
    simp only
    rw [AList.lookup_erase_ne hne, Function.update_of_ne hmapped]
    exact h fd other hmap direction hdirection

/-- No call of curl loses a wait. -/
theorem Covered.call (h : s.Covered missing) (ht : s.Tracked) (call : CurlCall) :
    (s.call call).Covered missing := by
  cases call with
  | socket fd what assignOk =>
    simp only [Io.call]
    split
    · exact h.removeSocket fd
    · exact h.setSocket ht fd what
  | timer timeoutMs =>
    simp only [Io.call, Io.setTimer]
    split <;> exact h
  | openSocket purpose family openError nonBlockingError choice =>
    simp only [Io.call]
    split
    · exact h.openSocket ht choice
    · exact h
  | closeSocket id =>
    simp only [Io.call]
    split
    · exact h.releaseSocket ht id
    · exact h
  | write | header | done => exact h

/-- A wait whose handler is about to run is missing from then on, if it has fired. -/
theorem Covered.deliver (h : s.Covered fun _ _ => False) {id : Nat} {wait : SocketWait}
    {socket : TcpSocket} (hdeliver : (s.sockets id).deliver wait = some socket) :
    (s.updateSocket id fun _ => socket).Covered
      fun id' direction => id' = id ∧ wait = ⟨direction, .fired⟩ := by
  intro fd id' hid direction hdirection
  obtain ⟨hactions, hlive⟩ := h fd id' hid direction hdirection
  refine ⟨hactions, ?_⟩
  have hlive := hlive.resolve_right False.elim
  by_cases hid' : id' = id
  · subst hid'
    rw [updateSocket_self]
    by_cases hwait : wait = ⟨direction, .fired⟩
    · exact .inr ⟨rfl, hwait⟩
    · exact .inl (hlive.deliver hdeliver hwait)
  · rw [updateSocket_of_ne _ _ hid']
    exact .inl hlive

theorem Covered.mono (h : s.Covered missing) {missing' : Nat → Direction → Prop}
    (hle : ∀ id direction, missing id direction → missing' id direction) :
    s.Covered missing' := by
  intro fd id hid direction hdirection
  obtain ⟨hactions, hlive⟩ := h fd id hid direction hdirection
  exact ⟨hactions, hlive.imp_right (hle id direction)⟩

/-- A wait that has fired is still outstanding until its handler runs. -/
theorem Covered.fire (h : s.Covered missing) {id : Nat} {direction : Direction}
    {socket : TcpSocket} (hfire : (s.sockets id).fire direction = some socket) :
    (s.updateSocket id fun _ => socket).Covered missing := by
  intro fd id' hid direction' hdirection
  obtain ⟨hactions, hlive⟩ := h fd id' hid direction' hdirection
  refine ⟨hactions, hlive.imp_left fun hlive => ?_⟩
  by_cases hid' : id' = id
  · subst hid'
    rw [updateSocket_self]
    exact hlive.fire hfire
  · rw [updateSocket_of_ne _ _ hid']
    exact hlive

/-! ## The wait of the timer -/

/-- The timeout curl has asked for last is waited for, unless it was delivered. -/
def Timed (s : Io) : Prop := ∀ t, s.timeout = some t → ∃ w ∈ s.timer.live, w.tag = t

/-- A new timeout is waited for, whatever became of the one before. -/
theorem timed_setTimer (s : Io) (timeoutMs : Int) : (s.setTimer timeoutMs).Timed := by
  unfold Io.setTimer
  split
  · intro t ht
    cases ht
  · intro t ht
    obtain rfl := Option.some.inj ht
    refine ⟨⟨s.now + timeoutMs, .armed, s.timeouts⟩, ?_, rfl⟩
    rw [SteadyTimer.live_asyncWait]
    exact List.mem_append_right _ (List.mem_singleton.mpr rfl)

/-- Only `CURLMOPT_TIMERFUNCTION` touches the timer. -/
theorem timer_of_calls (s : Io) {call : CurlCall} (hcall : ∀ timeoutMs, call ≠ .timer timeoutMs) :
    (s.call call).timer = s.timer ∧ (s.call call).timeout = s.timeout := by
  cases call with
  | socket fd what assignOk =>
    simp only [Io.call]
    split
    · exact ⟨rfl, rfl⟩
    · unfold Io.setSocket
      simp only
      split <;> exact ⟨rfl, rfl⟩
  | timer timeoutMs => exact absurd rfl (hcall timeoutMs)
  | openSocket purpose family openError nonBlockingError choice =>
    simp only [Io.call]
    split
    · unfold Io.openSocket Io.storeSocket
      simp only
      split <;> exact ⟨rfl, rfl⟩
    · exact ⟨rfl, rfl⟩
  | closeSocket id =>
    simp only [Io.call]
    split
    · unfold Io.releaseSocket
      simp only
      split <;> exact ⟨rfl, rfl⟩
    · exact ⟨rfl, rfl⟩
  | write | header | done => exact ⟨rfl, rfl⟩

/-- A timeout that is delivered need not be waited for any longer. -/
theorem Timed.deliver (h : s.Timed) {wait : Wait Nat} {timer : SteadyTimer Nat}
    (hdeliver : s.timer.deliver wait = some timer) :
    Timed { s with
      timer := timer
      timeout := if s.timeout = some wait.tag then none else s.timeout } := by
  intro t ht
  simp only at ht ⊢
  split at ht
  · cases ht
  · rename_i hother
    obtain ⟨w, hw, rfl⟩ := h t ht
    have hne : w ≠ wait := by
      rintro rfl
      exact hother ht
    rw [SteadyTimer.live_deliver hdeliver]
    exact ⟨w, (List.mem_erase_of_ne hne).mpr hw, rfl⟩

/-- A wait that was cancelled is not the one for the timeout. -/
theorem Timed.deliverAborted (h : s.Timed) {wait : Wait Nat} {timer : SteadyTimer Nat}
    (hwait : wait.status ≠ .fired) (hdeliver : s.timer.deliver wait = some timer) :
    Timed { s with timer := timer } := by
  intro t ht
  obtain ⟨w, hw, rfl⟩ := h t ht
  have hnot : wait ∉ s.timer.live := by
    intro hmem
    obtain ⟨-, harmed, -⟩ := SteadyTimer.deliver_eq_some hdeliver
    have halive : wait.status ≠ .aborted := by simpa using (List.mem_filter.mp hmem).2
    cases hstatus : wait.status with
    | armed => exact harmed hstatus
    | fired => exact hwait hstatus
    | aborted => exact halive hstatus
  simp only
  rw [SteadyTimer.live_deliver hdeliver, List.erase_of_not_mem hnot]
  exact ⟨w, hw, rfl⟩

/-- A wait of the timer that has fired is still outstanding until its handler runs. -/
theorem Timed.fire (h : s.Timed) {wait : Wait Nat} {timer : SteadyTimer Nat}
    (hfire : s.timer.fire wait s.now = some timer) : Timed { s with timer := timer } := by
  intro t ht
  obtain ⟨w, hw, rfl⟩ := h t ht
  simp only
  rw [SteadyTimer.live_fire hfire]
  by_cases hsame : w = wait
  · subst hsame
    exact ⟨_, List.mem_append_right _ (List.mem_singleton.mpr rfl), rfl⟩
  · exact ⟨w, List.mem_append_left _ ((List.mem_erase_of_ne hsame).mpr hw), rfl⟩

/-- No call of curl loses the wait of the timer. -/
theorem Timed.call (h : s.Timed) (call : CurlCall) : (s.call call).Timed := by
  by_cases hcall : ∀ timeoutMs, call ≠ .timer timeoutMs
  · obtain ⟨htimer, htimeout⟩ := s.timer_of_calls hcall
    intro t ht
    rw [htimeout] at ht
    rw [htimer]
    exact h t ht
  · obtain ⟨timeoutMs, rfl⟩ : ∃ timeoutMs, call = .timer timeoutMs := by
      simpa using hcall
    exact s.timed_setTimer timeoutMs

end Io

def CurlCall.isTimer : CurlCall → Bool
  | .timer _ => true
  | _ => false

namespace Io

theorem Timed.calls {s : Io} (h : s.Timed) (calls : List CurlCall) :
    (calls.foldl Io.call s).Timed :=
  List.foldlRecOn (motive := Timed) calls _ h fun _ h call _ => h.call call

/-- Once curl asks for a timeout, it is waited for. -/
theorem timed_of_isTimer (s : Io) {calls : List CurlCall}
    (h : calls.any (·.isTimer) = true) : (calls.foldl Io.call s).Timed := by
  induction calls generalizing s with
  | nil => cases h
  | cons call calls ih =>
    rw [List.any_cons, Bool.or_eq_true] at h
    rcases h with htimer | hrest
    · cases call with
      | timer timeoutMs => exact (s.timed_setTimer timeoutMs).calls calls
      | _ => cases htimer
    · exact ih _ hrest

end Io

/-! ## How many transfers run -/

def Requests.running (r : Requests H) : Nat :=
  (r.handles.filter fun n => n ∉ r.finished).length

/-- Transfers only end. -/
theorem Requests.Progress.running_le {r r' : Requests H}
    (h : Relation.ReflTransGen Requests.Progress r r') : r'.running ≤ r.running := by
  induction h with
  | refl => exact Nat.le_refl _
  | tail _ hstep ih =>
    refine Nat.le_trans ?_ ih
    cases hstep with
    | same | data => exact Nat.le_refl _
    | done hn result httpCode =>
      refine (List.monotone_filter_right _ fun n => ?_).length_le
      simp only [decide_eq_true_eq, List.mem_cons, not_or]
      exact And.right

theorem Requests.running_remove (r : Requests H) (n : Nat) (connections : Map (ConnContext H)) :
    (r.remove n connections).running ≤ r.running :=
  (List.erase_sublist.filter _).length_le

namespace Client

theorem running_curlMulti (c : Client H) : c.curlMulti.2.curl.running ≤ c.curl.running :=
  Requests.Progress.running_le c.curlMulti_progress

theorem running_curlMultiRemoveHandle (c : Client H) (n : Nat) :
    (c.curlMultiRemoveHandle n).curl.running ≤ c.curl.running :=
  (Requests.Progress.running_le (c.curlMultiRemoveHandle_progress n)).trans
    (c.requests.running_remove n c.connections)

theorem running_answer (c : Client H) (n : Nat) (handler : Option H) (ec : Option ErrorCode)
    (response : HttpResponse) :
    (c.answer n handler ec response).curl.running = c.curl.running := by
  cases handler <;> rfl

/-- Reading a message removes at most its handle. -/
theorem running_handleMessage (c : Client H) (msg : Message) :
    (c.handleMessage msg).curl.running ≤ c.curl.running := by
  unfold handleMessage
  split
  · exact running_curlMultiRemoveHandle (c.log .notFound) msg.easy
  · refine (running_answer ..).le.trans ?_
    exact running_curlMultiRemoveHandle { c with
      connections := c.connections.erase msg.easy } msg.easy

/-- By induction on the fuel: reading the messages starts no transfer. -/
theorem running_readMessages (fuel : Nat) :
    ∀ c : Client H, (c.readMessages fuel).curl.running ≤ c.curl.running := by
  induction fuel with
  | zero => exact fun _ => Nat.le_refl _
  | succ fuel ih =>
    intro c
    rw [readMessages]
    split
    · exact Nat.le_refl _
    · exact (ih _).trans (running_handleMessage { c with curl := { c.curl with messages := _ } } _)

/-- `still_running` counts no fewer transfers than are left, and no more than ran
before. -/
theorem running_socketAction (c : Client H) :
    c.socketAction.curl.running ≤ c.socketAction.stillRunning ∧
      c.socketAction.stillRunning ≤ c.curl.running := by
  have hcurl := c.running_curlMulti
  rw [stillRunning_socketAction]
  refine ⟨?_, hcurl⟩
  unfold socketAction curlMultiSocketAction
  generalize c.curlMulti = action
  obtain ⟨_ | _, c₁⟩ := action
  · exact Nat.le_refl _
  · exact running_readMessages _ { c₁ with stillRunning := c₁.curl.running }

end Client

/-! ## What is assumed of curl -/

/-- What curl does while a callback runs. -/
def Event.script : Event H → List CurlRun
  | .request _ _ script | .cancel _ script | .watch _ _ script | .timer _ script => script
  | .setCaCertificate _ | .ready _ _ | .tick _ | .expire _ => []

/-- Curl has no interest left in a socket if no transfer is running. -/
def Client.isQuiet (c : Client H) : Bool :=
  c.curl.running ≠ 0 || c.socketMap.entries.all fun entry => c.curl.interest entry.1 = .pollNone

/-- The calls of curl are successful; adding a handle makes curl ask for a timeout; and
curl wants no event when no transfer is left. -/
def curlKeepsPromises : Guard (Client H) (Event H) := fun c e =>
  (∀ run ∈ e.script, run.ok = true) ∧
  (match e with
    | .request args easyInit script =>
      c.multi = true → easyInit = true → (toCurlMethod args.method).isSome = true →
        script.head?.any (·.calls.any (·.isTimer)) = true
    | _ => True) ∧
  (step c e).all (·.isQuiet) = true

instance (c : Client H) (e : Event H) : Decidable (curlKeepsPromises c e) :=
  match e with
  | .request _ _ _ => inferInstanceAs (Decidable (_ ∧ (_ → _ → _ → _) ∧ _))
  | .cancel _ _ | .setCaCertificate _ | .watch _ _ _ | .timer _ _ | .ready _ _ | .tick _
  | .expire _ => inferInstanceAs (Decidable (_ ∧ True ∧ _))

/-! ## The invariant -/

/-- Between two callbacks nothing is missing. -/
structure Watchful (c : Client H) (missing : Nat → Direction → Prop) : Prop where
  running : c.curl.running ≤ c.stillRunning
  covered : c.io.Covered missing
  timed : c.stillRunning = 0 ∨ c.io.Timed

/-- Where no transfer runs and curl is quiet there is no event to miss. -/
theorem Io.Covered.of_isQuiet {c : Client H} (h : c.isQuiet = true) (hrunning : c.curl.running = 0)
    (missing : Nat → Direction → Prop) : c.io.Covered missing := by
  intro fd id hid direction hdirection
  have hnone : c.curl.interest fd = .pollNone := by
    simp only [Client.isQuiet, hrunning, ne_eq, not_true, decide_false, Bool.false_or,
      List.all_eq_true, decide_eq_true_eq] at h
    exact h ⟨fd, id⟩ (AList.mem_lookup_iff.mp hid)
  have hdirection : (c.curl.interest fd).includes direction = true := hdirection
  rw [hnone] at hdirection
  cases hdirection

namespace Watchful

variable {c : Client H} {missing : Nat → Direction → Prop}

/-- Nothing but the requests has changed. -/
theorem congr (h : Watchful c missing) {c' : Client H} (hio : c'.io = c.io)
    (hrunning : c'.curl.running = c.curl.running) (hstill : c'.stillRunning = c.stillRunning) :
    Watchful c' missing := by
  constructor
  · rw [hrunning, hstill]
    exact h.running
  · rw [hio]
    exact h.covered
  · rw [hstill, hio]
    exact h.timed

/-- The timer is waited for, unless no transfer is left. -/
theorem running_eq_zero_or (h : Watchful c missing) : c.curl.running = 0 ∨ c.io.Timed := by
  rcases h.timed with hstill | htimed
  · left
    have := h.running
    omega
  · exact .inr htimed

/-- After a socket action nothing is missing but what was missing before. -/
theorem socketAction (ht : c.io.Tracked) (hcovered : c.io.Covered missing)
    (htimed : c.curl.running = 0 ∨ c.io.Timed) : Watchful c.socketAction missing := by
  have hfollows := Client.Follows.socketAction c
  obtain ⟨hle, hge⟩ := c.running_socketAction
  constructor
  · exact hle
  · exact (hfollows.invariant (I := fun s => s.Tracked ∧ s.Covered missing)
      (fun s call h => ⟨h.1.call call, h.2.call h.1 call⟩) ⟨ht, hcovered⟩).2
  · rcases htimed with hrunning | htimed
    · left
      omega
    · exact .inr (hfollows.invariant (I := Io.Timed) (fun s call h => h.call call) htimed)

/-- The last transfer has ended, and curl is quiet. -/
theorem of_isQuiet (hquiet : c.isQuiet = true) (hrunning : c.curl.running = 0)
    (htimed : c.stillRunning = 0 ∨ c.io.Timed) : Watchful c missing where
  running := by
    rw [hrunning]
    exact Nat.zero_le _
  covered := .of_isQuiet hquiet hrunning missing
  timed := htimed

end Watchful

/-! ## The callbacks -/

/-- Adding a handle makes curl set the timer. -/
theorem Client.curlMultiAddHandle_timed {c c' : Client H} {n : Nat}
    (hadd : c.curlMultiAddHandle n = (true, c'))
    (htimer : c.script.head?.any (·.calls.any (·.isTimer)) = true) : c'.io.Timed := by
  cases hscript : c.script with
  | nil =>
    rw [hscript] at htimer
    cases htimer
  | cons run script =>
    rw [hscript] at htimer
    simp only [curlMultiAddHandle, curlMulti, hscript] at hadd
    have hio := (foldl_curlCall run.calls { c with script := script }).1
    generalize run.calls.foldl curlCall { c with script := script } = c₁ at hadd hio
    cases hok : run.ok with
    | false =>
      rw [hok] at hadd
      cases hadd
    | true =>
      rw [hok] at hadd
      obtain ⟨-, rfl⟩ := Prod.mk.inj hadd
      show c₁.io.Timed
      rw [hio]
      exact Io.timed_of_isTimer _ htimer

/-- Adding a handle succeeds where the calls of curl do. -/
theorem Client.curlMultiAddHandle_ok {c c' : Client H} {n : Nat} {ok : Bool}
    (hadd : c.curlMultiAddHandle n = (ok, c')) (hruns : ∀ run ∈ c.script, run.ok = true) :
    ok = true := by
  cases hscript : c.script with
  | nil =>
    simp only [curlMultiAddHandle, curlMulti, hscript] at hadd
    exact (Prod.mk.inj hadd).1.symm
  | cons run script =>
    have hok : run.ok = true := hruns run (by rw [hscript]; exact List.mem_cons_self)
    simp only [curlMultiAddHandle, curlMulti, hscript, hok] at hadd
    exact (Prod.mk.inj hadd).1.symm

namespace Watchful

variable {c : Client H} {missing : Nat → Direction → Prop}

theorem answer (h : Watchful c missing) (n : Nat) (handler : Option H) (ec : Option ErrorCode)
    (response : HttpResponse) : Watchful (c.answer n handler ec response) missing :=
  h.congr (c.io_answer ..) (c.running_answer ..) (c.stillRunning_answer ..)

/-- A request that is started is waited for: its handle has set the timer. -/
theorem startRequest (h : Watchful c missing) (ht : c.io.Tracked) (n : Nat)
    (conn : ConnContext H) (method : HttpMethod) (easyInit : Bool)
    (hruns : ∀ run ∈ c.script, run.ok = true)
    (htimer : c.multi = true → easyInit = true →
      c.script.head?.any (·.calls.any (·.isTimer)) = true) :
    Watchful (c.startRequest n conn method easyInit) missing := by
  have hspec := c.startRequest_spec n conn method easyInit
  generalize c.startRequest n conn method easyInit = c' at hspec ⊢
  cases hspec with
  | rejected hcode => exact h.answer ..
  | failed hadd => cases Client.curlMultiAddHandle_ok hadd hruns
  | @added c₁ options hmulti heasy hadd =>
    have hfollows := Client.Follows.curlMultiAddHandle c n
    rw [hadd] at hfollows
    obtain ⟨htracked, hcovered⟩ :=
      hfollows.invariant (I := fun s => s.Tracked ∧ s.Covered missing)
        (fun s call h => ⟨h.1.call call, h.2.call h.1 call⟩) ⟨ht, h.covered⟩
    -- the timer may have been cancelled before, but curl has just set it
    have htimed := Client.curlMultiAddHandle_timed hadd (htimer hmulti heasy)
    refine socketAction ?_ ?_ (.inr ?_)
    · exact htracked
    · exact hcovered
    · exact htimed

/-- A request that is rejected changes no wait. -/
theorem doRequest (h : Watchful c missing) (ht : c.io.Tracked) (args : RequestArgs H)
    (easyInit : Bool) (hruns : ∀ run ∈ c.script, run.ok = true)
    (htimer : c.multi = true → easyInit = true → (toCurlMethod args.method).isSome = true →
      c.script.head?.any (·.calls.any (·.isTimer)) = true) :
    Watchful (c.doRequest args easyInit) missing := by
  have hsubmitted : Watchful { c.log (.submitted c.calls args) with calls := c.calls + 1 }
      missing := h.congr rfl rfl rfl
  unfold Client.doRequest
  simp only
  split
  · exact hsubmitted.answer ..
  · rename_i hmethod
    refine hsubmitted.startRequest ht _ _ _ _ hruns fun hmulti heasy => htimer hmulti heasy ?_
    cases hsome : toCurlMethod args.method with
    | none => simp [hsome] at hmethod
    | some name => rfl

/-- The timer's callback loses no event. -/
theorem asioTimerCallback (h : Watchful c missing) (ht : c.io.Tracked) :
    Watchful c.asioTimerCallback missing := by
  rw [Client.asioTimerCallback_eq]
  split
  · exact socketAction ht h.covered h.running_eq_zero_or
  · exact h

/-- `do_cancel()` leaves no socket in the map and no transfer running. -/
theorem doCancel {order : List Nat} (hs : Serving (c.doCancel order).requests) :
    Watchful (c.doCancel order) missing := by
  have hpending : (c.doCancel order).requests.pending = 0 := by
    rw [Client.doCancel_requests]
  have hnone : (c.doCancel order).curl.handles = [] :=
    List.length_eq_zero_iff.mp (hs.pending.symm.trans hpending)
  constructor
  · have hrunning : (c.doCancel order).curl.running = 0 := by
      rw [Curl.running, hnone]
      rfl
    rw [hrunning]
    exact Nat.zero_le _
  · rw [(c.doCancel_io order).1]
    intro fd id hid
    cases hid
  · exact .inl rfl

end Watchful

/-- `event_callback()` starts the wait again that it was called for, if curl still
wants it. -/
theorem Watchful.eventCallback {c : Client H} {id : Nat} (direction : Direction)
    (h : Watchful c fun id' direction' => id' = id ∧ direction' = direction)
    (hs : Serving c.requests) (ht : c.io.Tracked) (hruns : ∀ run ∈ c.script, run.ok = true)
    (hquiet : (c.eventCallback id).isQuiet = true) :
    Watchful (c.eventCallback id) fun _ _ => False := by
  have haction := socketAction ht h.covered h.running_eq_zero_or
  have htracked : c.socketAction.io.Tracked :=
    (Client.Follows.socketAction c).invariant (fun _ call h => h.call call) ht
  have hfd : (c.sockets id).isOpen = true →
      (c.socketAction.sockets id).fd = (c.sockets id).fd := by
    intro hopen
    have hlt : id < c.io.opened := ht.owned id (ht.isOpen id hopen).2
    have hkeeps := (Client.Follows.socketAction c).invariant
      (I := fun s => s.Tracked ∧ (s.sockets id).fd = (c.sockets id).fd ∧ id < s.opened)
      (fun s call h => by
        obtain ⟨htracked, hfd, hlt⟩ := h
        obtain ⟨hfd', hlt'⟩ := htracked.fd_call call hlt
        exact ⟨htracked.call call, hfd'.trans hfd, hlt'⟩) ⟨ht, rfl, hlt⟩
    exact hkeeps.2.1
  have hspec := c.eventCallback_spec id
  generalize c.eventCallback id = c' at hspec hquiet ⊢
  cases hspec with
  | ignored hclosed =>
    rcases hclosed with hmulti | hclosed
    · have hnone : c.curl.handles = [] := hs.multi hmulti
      have hrunning : c.curl.running = 0 := by
        rw [Curl.running, hnone]
        rfl
      exact .of_isQuiet hquiet hrunning h.timed
    · refine ⟨h.running, fun fd id' hid direction' hdirection => ?_, h.timed⟩
      obtain ⟨haction, hlive⟩ := h.covered fd id' hid direction' hdirection
      refine ⟨haction, hlive.imp_right ?_⟩
      -- a socket in the map is open
      rintro ⟨rfl, -⟩
      have hopen := (ht.mapped fd _ hid).1
      rw [show c.io.sockets = c.sockets from rfl, hclosed] at hopen
      cases hopen
  | failed hopen hok =>
    -- every call of curl is successful
    have hfailed := c.curlMultiSocketAction_failed.mp hok
    cases hscript : c.script with
    | nil =>
      rw [hscript] at hfailed
      cases hfailed
    | cons run script =>
      have hrun : run.ok = true := hruns run (by rw [hscript]; exact List.mem_cons_self)
      simp [hscript, hrun] at hfailed
  | idle hopen hok hrunning =>
    refine .of_isQuiet hquiet ?_ (.inl hrunning)
    have := c.running_socketAction.1
    show c.socketAction.curl.running = 0
    omega
  | unwatched hopen hok hrunning hlookup =>
    refine ⟨haction.running, fun fd id' hid direction' hdirection => ?_, haction.timed⟩
    obtain ⟨hactions, hlive⟩ := haction.covered fd id' hid direction' hdirection
    refine ⟨hactions, hlive.imp_right ?_⟩
    rintro ⟨rfl, -⟩
    have hmapped : (c.socketAction.sockets id').fd = fd := (htracked.mapped fd _ hid).2
    rw [← hmapped, hfd hopen] at hactions
    have hlookup : c.socketAction.io.socketActions.lookup (c.sockets id').fd = none := hlookup
    rw [hlookup] at hactions
    cases hactions
  | @rearmed hopen hok hrunning action hlookup =>
    rw [Client.armSocketWatches_eq]
    refine ⟨haction.running, fun fd id' hid direction' hdirection => ?_, haction.timed⟩
    obtain ⟨hactions, hlive⟩ := haction.covered fd id' hid direction' hdirection
    refine ⟨hactions, .inl ?_⟩
    obtain ⟨hopen', hmapped⟩ := htracked.mapped fd id' hid
    by_cases hid' : id' = id
    · subst hid'
      have hsame : c.socketAction.io.interest fd = action := by
        have hmapped : (c.socketAction.sockets id').fd = fd := hmapped
        rw [← hmapped, hfd hopen] at hactions
        rw [← hmapped, hfd hopen]
        exact Option.some.inj (hactions.symm.trans hlookup)
      show ((c.socketAction.io.updateSocket id' (·.armWatches action)).sockets id').Live direction'
      rw [Io.updateSocket_self]
      refine TcpSocket.live_armWatches hopen' ?_
      rw [← hsame]
      exact hdirection
    · show ((c.socketAction.io.updateSocket id (·.armWatches action)).sockets id').Live direction'
      rw [Io.updateSocket_of_ne _ _ hid']
      exact hlive.resolve_right fun hmissing => hid' hmissing.1

/-! ## The whole system -/

/-- One case for each callback: what the callback was called for is missing until curl has
been told. -/
theorem Watchful.step {c c' : Client H} {e : Event H} (h : Watchful c fun _ _ => False)
    (hs : Serving c.requests) (ht : c.io.Tracked) (hok : curlKeepsPromises c e)
    (he : step c e = some c') : Watchful c' fun _ _ => False := by
  obtain ⟨hruns, htimer, hquiet⟩ := hok
  rw [he] at hquiet
  have hs' := hs.step he
  cases step_spec he with
  | request args easyInit script hscript =>
    have hstart : Watchful { c with script := script } fun _ _ => False := h.congr rfl rfl rfl
    exact hstart.doRequest ht args easyInit hruns htimer
  | cancel script horder hscript => exact Watchful.doCancel hs'
  | setCaCertificate file => exact h.congr rfl rfl rfl
  | @watch id direction socket script hdeliver hscript =>
    have htracked : (c.io.updateSocket id fun _ => socket).Tracked := by
      obtain ⟨-, -, rfl⟩ := TcpSocket.deliver_eq_some hdeliver
      exact ht.same (.setWaits c.io id _)
    refine Watchful.eventCallback direction ⟨h.running, ?_, h.timed⟩ hs htracked hruns hquiet
    -- the only missing wait is the one whose handler runs
    refine (h.covered.deliver hdeliver).mono fun id' direction' hmissing => ?_
    obtain ⟨rfl, hwait⟩ := hmissing
    exact ⟨rfl, (SocketWait.mk.inj hwait).1.symm⟩
  | @watchAborted id wait socket hwait hdeliver =>
    refine ⟨h.running, ?_, h.timed⟩
    refine (h.covered.deliver hdeliver).mono fun id' direction' hmissing => ?_
    rw [hmissing.2] at hwait
    exact hwait rfl
  | @timer wait timer script hwait hdeliver =>
    refine Watchful.asioTimerCallback ⟨h.running, h.covered, ?_⟩ (ht.same ?_)
    · exact h.timed.imp_right fun htimed => htimed.deliver hdeliver
    · exact ⟨rfl, rfl, rfl, rfl, fun _ => rfl, fun _ => rfl⟩
  | timerAborted hwait hdeliver =>
    exact ⟨h.running, h.covered, h.timed.imp_right fun htimed =>
      htimed.deliverAborted hwait hdeliver⟩
  | ready hfire => exact ⟨h.running, h.covered.fire hfire, h.timed⟩
  | tick elapsed => exact ⟨h.running, h.covered, h.timed⟩
  | expire hfire => exact ⟨h.running, h.covered, h.timed.imp_right fun htimed => htimed.fire hfire⟩

/-- Between two callbacks no event is missing, in every run in which curl keeps its
promises. -/
theorem watchful_of_reachable {c : Client H} (hr : Reachable (system H) curlKeepsPromises c) :
    Watchful c fun _ _ => False := by
  suffices h : Serving c.requests ∧ c.io.Tracked ∧ Watchful c fun _ _ => False from h.2.2
  refine hr.invariant (I := fun c => Serving c.requests ∧ c.io.Tracked ∧
    Watchful c fun _ _ => False) ?_ fun c e c' h hok he => ?_
  · rintro c ⟨multi, now, rfl⟩
    refine ⟨.init multi now, Io.tracked_create multi now, Nat.le_refl 0, ?_, .inl rfl⟩
    intro fd id hid
    cases hid
  · obtain ⟨hs, ht, hwatchful⟩ := h
    exact ⟨hs.step he, ht.step he, hwatchful.step hs ht hok he⟩

/-- **No event is lost.** Between two callbacks, while transfers are running:

- for each socket in the map, and each direction that curl was last interested
  in, a wait is armed, or has completed and is queued;
- unless curl's last timeout was delivered, or was negative, the timer's wait for
  it is armed, or has completed and is queued. -/
theorem no_event_lost {c : Client H} (hr : Reachable (system H) curlKeepsPromises c)
    (hrunning : 0 < c.stillRunning) :
    (∀ fd id, c.socketMap.lookup fd = some id → ∀ direction,
      (c.curl.interest fd).includes direction = true → (c.sockets id).Live direction) ∧
    ∀ t, c.curl.timeout = some t → ∃ w ∈ c.timer.live, w.tag = t := by
  have h := watchful_of_reachable hr
  constructor
  · intro fd id hid direction hdirection
    exact (h.covered fd id hid direction hdirection).2.resolve_right False.elim
  · refine h.timed.resolve_left ?_
    omega

/-- One connection, first written to, then read from. The timer expires and is set
again; a second request shares the connection. -/
def sharedConnection : List (Event Nat) :=
  [.request (getRoot 0) true [{ calls := [.timer 0] },
      { calls := [.openSocket .ipConnection .inet false false 7, .socket 7 .pollOut true,
        .timer 200] }],
    .timer ⟨0, .aborted, 0⟩ [],
    .ready 0 .write,
    .watch 0 ⟨.write, .fired⟩ [{ calls := [.socket 7 .pollInOut true] }],
    .tick 200,
    .expire ⟨200, .armed, 1⟩,
    .timer ⟨200, .fired, 1⟩ [{ calls := [.socket 7 .pollIn true, .timer 1000] }],
    .request (getRoot 1) true [{ calls := [.timer 0] }, {}],
    .ready 0 .read]

/-- Two requests over one connection, and the timer twice. -/
theorem no_event_lost_sharedConnection :
    ∃ c, run (system Nat) curlKeepsPromises (Client.create true 0) sharedConnection = some c ∧
      (c.sockets 0).Live .read := by
  have hsome : (run (system Nat) curlKeepsPromises (Client.create true 0) sharedConnection).map
      (fun c => (c.stillRunning, c.socketMap.lookup 7, c.curl.interest 7)) =
        some (2, some 0, .pollIn) := by decide
  obtain ⟨c, hrun, hc⟩ := Option.map_eq_some_iff.mp hsome
  simp only [Prod.mk.injEq] at hc
  obtain ⟨hrunning, hid, hinterest⟩ := hc
  refine ⟨c, hrun, (no_event_lost ⟨_, ⟨true, 0, rfl⟩, Path.of_run sharedConnection hrun⟩
    (by omega)).1 7 0 hid .read ?_⟩
  rw [hinterest]
  rfl

end CppComponents.HttpsMultiplexClient
