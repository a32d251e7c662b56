import CppComponents.Allocations
import CppComponents.HttpsMultiplexClient.Io
import CppComponents.HttpsMultiplexClient.Requests

/-!
# The pointers curl is given

For each descriptor that curl asks about, `handle_add_socket()` allocates an `int`, keeps
it alive in `actions`, and has curl pass a pointer to it from then on
(`curl_multi_assign()`). `handle_set_socket()` writes through the pointer, and
`handle_remove_socket()` frees the `int` when curl has no more use for it. `do_cancel()`
frees all of them.

What becomes of the pointers is an account of `Allocations`, with the descriptors for
holders. In no other way than by `do_cancel()` does a pointer dangle that curl holds.
-/

namespace CppComponents.HttpsMultiplexClient

open CppComponents.Transition

variable {H : Type}

/-! ## What curl does to the account -/

/-- What a call curl makes does to the account. -/
inductive PointerStep : Allocations Nat → Allocations Nat → Prop where
  | same (h : Allocations Nat) : PointerStep h h
  | give (h : Allocations Nat) {fd : Nat} (hnone : h.held.lookup fd = none) :
    PointerStep h (h.give fd)
  /-- `curl_multi_assign()` has failed -/
  | discard (h : Allocations Nat) : PointerStep h h.discard
  | giveBack (h : Allocations Nat) (fd : Nat) : PointerStep h (h.giveBack fd)

/-- What a number of calls do. -/
abbrev PointerSteps := Relation.ReflTransGen PointerStep

/-- What curl's calls do to the account keeps it sound, by induction on them. -/
theorem sound_pointerSteps {h h' : Allocations Nat} {freed : List Nat} (hs : h.Sound freed)
    (hsteps : PointerSteps h h') : h'.Sound freed := by
  induction hsteps with
  | refl => exact hs
  | tail _ hstep ih =>
    cases hstep with
    | same => exact ih
    | give hnone => exact ih.give hnone
    | discard => exact ih.discard
    | giveBack fd => exact ih.giveBack fd

namespace Client

def allocations (c : Client H) : Allocations Nat :=
  ⟨c.curl.assigned, c.actions.keys, c.allocated⟩

theorem allocations_armSocketWatches (c : Client H) (id : Nat) (action : CurlPoll) :
    (c.armSocketWatches id action).allocations = c.allocations := by
  rw [armSocketWatches_eq]
  rfl

/-- Writing through a pointer frees nothing. -/
theorem allocations_handleSetSocket (c : Client H) (fd : Nat) (action : CurlPoll)
    (actionp : Nat) : (c.handleSetSocket fd action actionp).allocations = c.allocations := by
  unfold handleSetSocket
  split
  · rfl
  · rw [allocations_armSocketWatches]
    simp [allocations, updateSocket]

/-- `handle_add_socket()` keeps the object if curl takes the pointer, and frees it
otherwise. -/
theorem allocations_handleAddSocket (c : Client H) (fd : Nat) (what : CurlPoll)
    (assignOk : Bool) : (c.handleAddSocket fd what assignOk).allocations =
      if assignOk then c.allocations.give fd else c.allocations.discard := by
  have hset := c.allocations_handleSetSocket fd what c.allocated
  obtain ⟨hassigned, hkeys, -⟩ := Allocations.mk.inj hset
  unfold handleAddSocket
  cases assignOk with
  | false => simp [allocations, Allocations.discard, hassigned, hkeys]
  | true => simp [allocations, Allocations.give, hassigned, hkeys, AList.keys_insert]

/-- A call of the socket callback is one step of the account. -/
theorem allocations_curlCall_socket (c : Client H) (fd : Nat) (what : CurlPoll)
    (assignOk : Bool) :
    PointerStep c.allocations (c.curlCall (.socket fd what assignOk)).allocations := by
  by_cases hwhat : what = .pollRemove
  · have hback : (c.curlCall (.socket fd what assignOk)).allocations =
        c.allocations.giveBack fd := by
      simp only [curlCall, handleSocketEvent, handleRemoveSocket, if_pos hwhat]
      cases hfd : c.curl.assigned.lookup fd <;> simp [allocations, Allocations.giveBack, hfd]
    rw [hback]
    exact .giveBack _ fd
  · simp only [curlCall, handleSocketEvent, if_neg hwhat]
    cases hfd : c.curl.assigned.lookup fd with
    | some actionp =>
      simp only
      rw [allocations_handleSetSocket]
      exact .same _
    | none =>
      simp only
      rw [allocations_handleAddSocket]
      split
      · exact .give _ hfd
      · exact .discard _

theorem allocations_storeSocket (c : Client H) (fd : Nat) :
    (c.storeSocket fd).allocations = c.allocations := by
  unfold storeSocket
  simp only
  split <;> rfl

/-- A call of curl does one step to the account. -/
theorem pointerStep_curlCall (c : Client H) (call : CurlCall) :
    PointerStep c.allocations (c.curlCall call).allocations := by
  have hsame : ∀ {c' : Client H}, c'.allocations = c.allocations →
      PointerStep c.allocations c'.allocations := fun h => h ▸ .same _
  cases call with
  | socket fd what assignOk => exact c.allocations_curlCall_socket fd what assignOk
  | timer timeoutMs =>
    refine hsame ?_
    simp only [curlCall, handleTimeoutEvent]
    split <;> rfl
  | openSocket purpose family openError nonBlockingError choice =>
    refine hsame ?_
    simp only [curlCall]
    rcases c.handleOpenSocket_cases purpose family openError nonBlockingError
      (c.freeDescriptor choice) with hopen | hopen
    · rw [hopen]
    · rw [hopen]
      exact c.allocations_storeSocket _
  | closeSocket id =>
    refine hsame ?_
    simp only [curlCall, handleCloseSocket]
    split
    · split <;> rfl
    · rfl
  | write n data =>
    refine hsame ?_
    simp only [curlCall, writeCallback]
    split
    · split <;> rfl
    · rfl
  | header n line =>
    refine hsame ?_
    simp only [curlCall, headerCallback]
    split
    · split <;> rfl
    · rfl
  | done n result httpCode =>
    refine hsame ?_
    simp only [curlCall]
    split <;> rfl

/-- Curl's calls are steps of the account, by induction on them. -/
theorem pointerSteps_curlCalls (calls : List CurlCall) :
    ∀ c : Client H, PointerSteps c.allocations (calls.foldl curlCall c).allocations := by
  induction calls with
  | nil => exact fun c => .refl
  | cons call calls ih => exact fun c => .head (c.pointerStep_curlCall call) (ih _)

/-! ## What the functions do to it -/

/-- A run of curl is steps of the account. -/
theorem pointerSteps_curlMulti (c : Client H) :
    PointerSteps c.allocations c.curlMulti.2.allocations := by
  unfold curlMulti
  split
  · exact .refl
  · rename_i run script _
    exact pointerSteps_curlCalls run.calls { c with script := script }

/-- Removing a handle is a run of curl. -/
theorem pointerSteps_curlMultiRemoveHandle (c : Client H) (n : Nat) :
    PointerSteps c.allocations (c.curlMultiRemoveHandle n).allocations :=
  pointerSteps_curlMulti { c with
    curl := { c.curl with
      handles := c.curl.handles.erase n
      messages := c.curl.messages.filter fun msg => msg.easy ≠ n } }

theorem allocations_answer (c : Client H) (n : Nat) (handler : Option H)
    (ec : Option ErrorCode) (response : HttpResponse) :
    (c.answer n handler ec response).allocations = c.allocations := by
  cases handler <;> rfl

/-- A message removes a handle. -/
theorem pointerSteps_handleMessage (c : Client H) (msg : Message) :
    PointerSteps c.allocations (c.handleMessage msg).allocations := by
  unfold handleMessage
  split
  · exact pointerSteps_curlMultiRemoveHandle (c.log .notFound) msg.easy
  · rw [allocations_answer]
    exact pointerSteps_curlMultiRemoveHandle
      { c with connections := c.connections.erase msg.easy } msg.easy

/-- By induction on the fuel: so does each message of the loop. -/
theorem pointerSteps_readMessages (fuel : Nat) :
    ∀ c : Client H, PointerSteps c.allocations (c.readMessages fuel).allocations := by
  induction fuel with
  | zero => exact fun c => .refl
  | succ fuel ih =>
    intro c
    rw [readMessages]
    split
    · exact .refl
    · rename_i msg messages _
      exact (pointerSteps_handleMessage { c with
        curl := { c.curl with messages := messages } } msg).trans (ih _)

/-- A socket action is a run of curl and its messages. -/
theorem pointerSteps_socketAction (c : Client H) :
    PointerSteps c.allocations c.socketAction.allocations := by
  have haction : PointerSteps c.allocations c.curlMultiSocketAction.2.allocations :=
    c.pointerSteps_curlMulti
  unfold socketAction
  generalize c.curlMultiSocketAction = action at haction
  obtain ⟨_ | _, c₁⟩ := action
  · exact haction
  · exact haction.trans (pointerSteps_readMessages _ c₁)

/-- Adding a handle is a run of curl. -/
theorem pointerSteps_curlMultiAddHandle (c : Client H) (n : Nat) :
    PointerSteps c.allocations (c.curlMultiAddHandle n).2.allocations := by
  have hmulti := c.pointerSteps_curlMulti
  unfold curlMultiAddHandle
  generalize c.curlMulti = added at hmulti
  obtain ⟨_ | _, c₁⟩ := added <;> exact hmulti

/-- A request is started with a handle that is added and a socket action. -/
theorem pointerSteps_doRequest (c : Client H) (args : RequestArgs H) (easyInit : Bool) :
    PointerSteps c.allocations (c.doRequest args easyInit).allocations := by
  have hstart : ∀ (c : Client H) n conn, PointerSteps c.allocations
      (c.startRequest n conn args.method easyInit).allocations := by
    intro c n conn
    have hspec := c.startRequest_spec n conn args.method easyInit
    have hadded := c.pointerSteps_curlMultiAddHandle n
    generalize c.startRequest n conn args.method easyInit = c' at hspec
    cases hspec with
    | rejected => rw [allocations_answer]
    | failed hadd =>
      rw [allocations_answer]
      rwa [hadd] at hadded
    | @added c' options _ _ hadd =>
      rw [hadd] at hadded
      exact hadded.trans
        (pointerSteps_socketAction (c'.accept n { conn with easy := some options }))
  unfold doRequest
  simp only
  split
  · rw [allocations_answer]
    rfl
  · exact hstart { c.log (.submitted c.calls args) with calls := c.calls + 1 } _ _

/-- The callback of a socket is a socket action. -/
theorem pointerSteps_eventCallback (c : Client H) (id : Nat) :
    PointerSteps c.allocations (c.eventCallback id).allocations := by
  have hspec := c.eventCallback_spec id
  generalize c.eventCallback id = c' at hspec
  cases hspec with
  | ignored => exact .refl
  | failed | idle | unwatched => exact c.pointerSteps_socketAction
  | rearmed =>
    rw [allocations_armSocketWatches]
    exact c.pointerSteps_socketAction

/-- The callback of the timer is a socket action. -/
theorem pointerSteps_asioTimerCallback (c : Client H) :
    PointerSteps c.allocations c.asioTimerCallback.allocations := by
  rw [asioTimerCallback_eq]
  split
  · exact c.pointerSteps_socketAction
  · exact .refl

/-- `do_cancel()` removes the handles one by one. -/
theorem pointerSteps_cancelConnections (c : Client H) (order : List Nat) :
    PointerSteps c.allocations (c.cancelConnections order).allocations := by
  refine List.foldlRecOn (motive := fun c' : Client H =>
    PointerSteps c.allocations c'.allocations) order _ .refl fun c' hsteps n _ => ?_
  split
  · exact hsteps
  · refine hsteps.trans ?_
    unfold cancelConnection
    rw [allocations_answer]
    split
    · exact c'.pointerSteps_curlMultiRemoveHandle n
    · exact .refl

/-- After its first loop, `do_cancel()` frees what is left. -/
theorem allocations_doCancel (c : Client H) (order : List Nat) :
    (c.doCancel order).allocations = (c.cancelConnections order).allocations.freeAll := by
  have hclosed : ∀ (entries : List (Sigma fun _ : Nat => Nat)) (c : Client H),
      (entries.foldl (fun c entry => c.closeSocket entry.2) c).allocations = c.allocations := by
    intro entries
    induction entries with
    | nil => exact fun _ => rfl
    | cons entry entries ih => exact fun c => ih (c.closeSocket entry.2)
  exact congrArg Allocations.freeAll
    (hclosed _ { c.cancelConnections order with pending := 0 })

end Client

/-! ## Whole runs -/

/-- Is it `do_cancel()`? -/
def Event.isCancel : Event H → Bool
  | .cancel _ _ => true
  | _ => false

/-- A step does to the account what curl's calls do; and after them `do_cancel()` frees
what is left. -/
theorem step_allocations {c c' : Client H} {e : Event H} (he : step c e = some c') :
    ∃ h, PointerSteps c.allocations h ∧
      c'.allocations = if e.isCancel then h.freeAll else h := by
  cases step_spec he with
  | request args easyInit script =>
    exact ⟨_, Client.pointerSteps_doRequest { c with script := script } args easyInit, rfl⟩
  | @cancel order script =>
    exact ⟨_, Client.pointerSteps_cancelConnections { c with script := script } order,
      Client.allocations_doCancel { c with script := script } order⟩
  | @watch id direction socket script =>
    exact ⟨_, Client.pointerSteps_eventCallback
      { c.updateSocket id fun _ => socket with script := script } id, rfl⟩
  | @timer wait timer script =>
    exact ⟨_, Client.pointerSteps_asioTimerCallback { c with
      timer := timer
      curl := { c.curl with
        timeout := if c.curl.timeout = some wait.tag then none else c.curl.timeout }
      script := script }, rfl⟩
  | setCaCertificate | watchAborted | timerAborted | ready | tick | expire =>
    exact ⟨_, .refl, rfl⟩

/-- The objects that `do_cancel()` has freed although curl held a pointer to them. -/
def freeing (H : Type) : System (Client H × List Nat) (Event H) :=
  (system H).record [] fun freed _ e c =>
    if e.isCancel then freed ++ c.allocations.pointers else freed

/-- The account is sound in every reachable state, apart from what `do_cancel()` has
freed. -/
theorem sound_of_reachable {c : Client H} {freed : List Nat}
    (hr : Reachable (freeing H) anyStep (c, freed)) : c.allocations.Sound freed := by
  have hr : Reachable (freeing H) (fun p e => anyStep p.1 e) (c, freed) := hr
  refine hr.record_invariant (I := fun c freed => c.allocations.Sound freed) ?_ ?_
  · rintro c ⟨multi, now, rfl⟩
    exact Allocations.Sound.empty
  · intro c freed e c' hs _ he
    obtain ⟨h, hsteps, heq⟩ := step_allocations he
    have hsound := sound_pointerSteps hs hsteps
    split
    · rename_i hcancel
      rw [heq, if_pos hcancel]
      exact hsound.freeAll
    · rename_i hcancel
      rw [heq, if_neg hcancel]
      exact hsound

/-- **A pointer dangles only by `do_cancel()`.** In every reachable state, and after any
calls that curl makes in it, the pointer curl passes back for a descriptor points to a live
object exactly if `do_cancel()` has not freed the object while curl had the pointer. And
every live object is curl's for one descriptor, so that it is freed when curl is done with
that. -/
theorem socketp_dangles_iff {c : Client H} {freed : List Nat}
    (hr : Reachable (freeing H) anyStep (c, freed)) (calls : List CurlCall) :
    (∀ fd a, (calls.foldl Client.curlCall c).curl.assigned.lookup fd = some a →
      (a ∈ (calls.foldl Client.curlCall c).actions ↔ a ∉ freed)) ∧
    ∀ a ∈ (calls.foldl Client.curlCall c).actions,
      ∃! fd, (calls.foldl Client.curlCall c).curl.assigned.lookup fd = some a := by
  have hs := sound_pointerSteps (sound_of_reachable hr) (Client.pointerSteps_curlCalls calls c)
  exact ⟨fun fd a hfd => hs.mem_live_iff hfd, fun a ha => hs.existsUnique_holder ha⟩

/-- A request is cancelled while curl watches its socket, and curl does not say that it has
stopped. The next request gets another socket. -/
def cancelWhileWatched : List (Event Nat) :=
  [.request (getRoot 0) true [{ calls := [.timer 0] },
      { calls := [.openSocket .ipConnection .inet false false 7, .socket 7 .pollOut true] }],
    .cancel [0] [{}],
    .request (getRoot 1) true [{ calls := [.timer 0] },
      { calls := [.openSocket .ipConnection .inet false false 8, .socket 8 .pollOut true] }]]

/-- The pointer for the first socket dangles, and that for the second does not. -/
theorem socketp_dangles_iff_cancelWhileWatched :
    ∃ c, Reachable (freeing Nat) anyStep (c, [0]) ∧
      c.curl.assigned.lookup 7 = some 0 ∧ 0 ∉ c.actions ∧
      c.curl.assigned.lookup 8 = some 1 ∧ 1 ∈ c.actions := by
  have hany : (run (freeing Nat) anyStep (Client.create true 0, []) cancelWhileWatched).any
      (fun p => p.2 = [0] ∧ p.1.curl.assigned.lookup 7 = some 0 ∧
        p.1.curl.assigned.lookup 8 = some 1) = true := by
    decide
  obtain ⟨⟨c, freed⟩, hrun, hc⟩ := (Option.any_eq_true _ _).mp hany
  obtain ⟨hfreed, hfirst, hsecond⟩ := of_decide_eq_true hc
  obtain rfl : freed = [0] := hfreed
  have hr : Reachable (freeing Nat) anyStep (c, [0]) :=
    ⟨_, ⟨⟨true, 0, rfl⟩, rfl⟩, Path.of_run cancelWhileWatched hrun⟩
  obtain ⟨hiff, -⟩ := socketp_dangles_iff hr []
  exact ⟨c, hr, hfirst, fun hmem => (hiff 7 0 hfirst).mp hmem (by simp), hsecond,
    (hiff 8 1 hsecond).mpr (by simp)⟩

end CppComponents.HttpsMultiplexClient
