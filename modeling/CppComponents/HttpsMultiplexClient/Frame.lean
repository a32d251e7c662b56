import Mathlib.Logic.Relation
import CppComponents.HttpsMultiplexClient.Model

/-!
# The request half of the multiplexing client

What curl does for the requests and what it does with the sockets and the timer
meet in no field of the client. `Requests` is the one half; the other one is in
`Io.lean`. The callbacks that open, close and watch sockets leave the requests as
they are; `curlCall_progress` says what the others do to them.
-/

namespace CppComponents.HttpsMultiplexClient

open CppComponents.Transition

variable {H : Type}

/-- The fields a request goes through. -/
structure Requests (H : Type) where
  multi : Bool
  pending : Nat
  connections : Map (ConnContext H)
  handles : List Nat
  finished : List Nat
  messages : List Message
  calls : Nat
  trace : List (Obs H)

namespace Client

def requests (c : Client H) : Requests H :=
  ⟨c.multi, c.pending, c.connections, c.curl.handles, c.curl.finished, c.curl.messages, c.calls,
    c.trace⟩

/-! ## What the socket callbacks leave -/

theorem requests_armSocketWatches (c : Client H) (id : Nat) (action : CurlPoll) :
    (c.armSocketWatches id action).requests = c.requests := by
  unfold armSocketWatches
  cases action.includes .read <;> cases action.includes .write <;> rfl

/-- A new interest is not about requests. -/
theorem requests_handleSetSocket (c : Client H) (fd : Nat) (action : CurlPoll) (actionp : Nat) :
    (c.handleSetSocket fd action actionp).requests = c.requests := by
  unfold handleSetSocket
  split
  · rfl
  · exact requests_armSocketWatches ..

/-- The socket callback is not about requests. -/
theorem requests_handleSocketEvent (c : Client H) (fd : Nat) (what : CurlPoll)
    (socketp : Option Nat) (assignOk : Bool) :
    (c.handleSocketEvent fd what socketp assignOk).requests = c.requests := by
  unfold handleSocketEvent
  split
  · cases socketp <;> rfl
  · cases socketp with
    | none =>
      unfold handleAddSocket
      cases assignOk <;> exact requests_handleSetSocket c fd what c.allocated
    | some actionp => exact requests_handleSetSocket c fd what actionp

theorem requests_handleTimeoutEvent (c : Client H) (timeoutMs : Int) :
    (c.handleTimeoutEvent timeoutMs).requests = c.requests := by
  unfold handleTimeoutEvent
  split <;> rfl

theorem requests_storeSocket (c : Client H) (fd : Nat) :
    (c.storeSocket fd).requests = c.requests := by
  cases hfd : c.socketMap.lookup fd <;> simp only [storeSocket, hfd] <;> rfl

theorem requests_handleCloseSocket (c : Client H) (item : Nat) :
    (c.handleCloseSocket item).requests = c.requests := by
  cases hitem : c.socketMap.lookup item <;> simp only [handleCloseSocket, hitem] <;> rfl

/-- `open_socket_callback` either fails or stores the socket. -/
theorem handleOpenSocket_cases (c : Client H) (purpose : SocketPurpose) (family : AddressFamily)
    (openError nonBlockingError : Bool) (fd : Nat) :
    c.handleOpenSocket purpose family openError nonBlockingError fd = (none, c) ∨
      c.handleOpenSocket purpose family openError nonBlockingError fd =
        (some fd, c.storeSocket fd) := by
  unfold handleOpenSocket
  by_cases hpurpose : purpose = .ipConnection
  · by_cases hfamily : family = .other
    · simp [hfamily]
    · cases openError <;> cases nonBlockingError <;> simp [hpurpose, hfamily]
  · simp [hpurpose]

end Client

/-! ## What curl does to the requests -/

/-- The effect of a part of a response on the connection it is for. -/
def Data.apply (conn : ConnContext H) : Data → ConnContext H
  | .body data => { conn with responseBody := conn.responseBody ++ data }
  | .header line =>
    { conn with responseHeaders := conn.responseHeaders ++ (parseHeader line).toList }

def applyData (connections : Map (ConnContext H)) (n : Nat) (data : Data) :
    Map (ConnContext H) :=
  match connections.lookup n with
  | none => connections
  | some conn => connections.insert n (data.apply conn)

/-- The data of request `n` reach its connection only. -/
theorem lookup_applyData (connections : Map (ConnContext H)) (n m : Nat) (data : Data) :
    (applyData connections n data).lookup m =
      (connections.lookup m).map fun conn => if m = n then data.apply conn else conn := by
  by_cases hne : m = n
  · subst hne
    cases hold : connections.lookup m with
    | none => simp [applyData, hold]
    | some conn => simp [applyData, hold, AList.lookup_insert]
  · have hsame : (applyData connections n data).lookup m = connections.lookup m := by
      unfold applyData
      split
      · rfl
      · exact AList.lookup_insert_ne hne
    rw [hsame]
    simp [hne]

/-- The transfer is running: its handle is in the multi and not done. -/
def Requests.Transferring (r : Requests H) (n : Nat) : Prop := n ∈ r.handles ∧ n ∉ r.finished

/-- Is it the end of transfer `n`? -/
def CurlCall.isDone (n : Nat) : CurlCall → Bool
  | .done m _ _ => m = n
  | _ => false

/-- What a call curl makes does to the requests. -/
inductive Requests.Progress : Requests H → Requests H → Prop where
  | same (r : Requests H) : Progress r r
  | data (r : Requests H) {n : Nat} (hn : r.Transferring n) (data : Data) :
    Progress r { r with
      connections := applyData r.connections n data
      trace := r.trace ++ [.data n data] }
  | done (r : Requests H) {n : Nat} (hn : r.Transferring n) (result : CURLcode) (httpCode : Nat) :
    Progress r { r with
      finished := n :: r.finished
      messages := r.messages ++ [⟨n, result, httpCode⟩]
      trace := r.trace ++ [.done n result httpCode] }

namespace Client

/-- Curl's calls of the socket callback leave the requests. -/
theorem requests_curlCall_socket (c : Client H) (fd : Nat) (what : CurlPoll) (assignOk : Bool) :
    (c.curlCall (.socket fd what assignOk)).requests = c.requests := by
  simp only [curlCall]
  split
  · exact requests_handleSocketEvent ..
  · exact requests_handleSocketEvent ..

/-- So do its calls of the open callback. -/
theorem requests_curlCall_openSocket (c : Client H) (purpose : SocketPurpose)
    (family : AddressFamily) (openError nonBlockingError : Bool) (choice : Nat) :
    (c.curlCall (.openSocket purpose family openError nonBlockingError choice)).requests =
      c.requests := by
  simp only [curlCall]
  rcases c.handleOpenSocket_cases purpose family openError nonBlockingError
    (c.freeDescriptor choice) with hopen | hopen
  · rw [hopen]
  · rw [hopen]
    exact requests_storeSocket ..

/-- So do its calls of the close callback. -/
theorem requests_curlCall_closeSocket (c : Client H) (id : Nat) :
    (c.curlCall (.closeSocket id)).requests = c.requests := by
  simp only [curlCall]
  split
  · exact requests_handleCloseSocket ..
  · rfl

theorem isTransferring_iff (c : Client H) (n : Nat) :
    c.isTransferring n = true ↔ c.requests.Transferring n := by
  simp [isTransferring, Requests.Transferring, requests]

theorem writeCallback_requests (c : Client H) (n : Nat) (data : Text) :
    (c.writeCallback n data).requests = { c.requests with
      connections := applyData c.connections n (.body data) } := by
  cases hn : c.connections.lookup n <;> simp only [writeCallback, applyData, hn] <;> rfl

theorem headerCallback_requests (c : Client H) (n : Nat) (line : Text) :
    (c.headerCallback n line).requests = { c.requests with
      connections := applyData c.connections n (.header line) } := by
  cases hn : c.connections.lookup n <;> simp only [headerCallback, applyData, hn] <;> rfl

/-- Each call curl makes moves the requests on as `Progress` says. -/
theorem curlCall_progress (c : Client H) (call : CurlCall) :
    c.requests.Progress (c.curlCall call).requests := by
  have hsame : ∀ {c' : Client H}, c'.requests = c.requests → c.requests.Progress c'.requests :=
    fun h => h ▸ .same _
  cases call with
  | socket fd what assignOk => exact hsame (requests_curlCall_socket c fd what assignOk)
  | timer timeoutMs => exact hsame (requests_handleTimeoutEvent c timeoutMs)
  | openSocket purpose family openError nonBlockingError choice =>
    exact hsame (requests_curlCall_openSocket c purpose family openError nonBlockingError choice)
  | closeSocket id => exact hsame (requests_curlCall_closeSocket c id)
  | write n data =>
    simp only [curlCall]
    split
    · rename_i hn
      rw [writeCallback_requests]
      exact .data _ ((c.isTransferring_iff n).mp hn) _
    · exact .same _
  | header n line =>
    simp only [curlCall]
    split
    · rename_i hn
      rw [headerCallback_requests]
      exact .data _ ((c.isTransferring_iff n).mp hn) _
    · exact .same _
  | done n result httpCode =>
    simp only [curlCall]
    split
    · rename_i hn
      exact .done _ ((c.isTransferring_iff n).mp hn) _ _
    · exact .same _

/-- A transfer is done when curl says so. -/
theorem finished_curlCall (c : Client H) (call : CurlCall) :
    (c.curlCall call).curl.handles = c.curl.handles ∧
      ∀ n ∈ c.curl.handles, n ∈ (c.curlCall call).curl.finished ↔
        n ∈ c.curl.finished ∨ call.isDone n = true := by
  have hsame : ∀ {c' : Client H}, c'.requests = c.requests → (∀ n, call.isDone n = false) →
      c'.curl.handles = c.curl.handles ∧ ∀ n ∈ c.curl.handles,
        n ∈ c'.curl.finished ↔ n ∈ c.curl.finished ∨ call.isDone n = true := by
    intro c' h hnot
    refine ⟨congrArg Requests.handles h, fun n _ => ?_⟩
    rw [show c'.curl.finished = c.curl.finished from congrArg Requests.finished h, hnot n]
    simp
  cases call with
  | socket fd what assignOk =>
    exact hsame (requests_curlCall_socket c fd what assignOk) fun _ => rfl
  | timer timeoutMs => exact hsame (requests_handleTimeoutEvent c timeoutMs) fun _ => rfl
  | openSocket purpose family openError nonBlockingError choice =>
    exact hsame (requests_curlCall_openSocket c purpose family openError nonBlockingError choice)
      fun _ => rfl
  | closeSocket id => exact hsame (requests_curlCall_closeSocket c id) fun _ => rfl
  | write n data =>
    simp only [curlCall, CurlCall.isDone, Bool.false_eq_true, or_false]
    split
    · unfold writeCallback
      split <;> exact ⟨rfl, fun _ _ => .rfl⟩
    · exact ⟨rfl, fun _ _ => .rfl⟩
  | header n line =>
    simp only [curlCall, CurlCall.isDone, Bool.false_eq_true, or_false]
    split
    · unfold headerCallback
      split <;> exact ⟨rfl, fun _ _ => .rfl⟩
    · exact ⟨rfl, fun _ _ => .rfl⟩
  -- only a transfer in the multi can be done, and no other call ends one
  | done m result httpCode =>
    simp only [curlCall, CurlCall.isDone, decide_eq_true_eq]
    split
    · refine ⟨rfl, fun n _ => ?_⟩
      show n ∈ m :: c.curl.finished ↔ _
      rw [List.mem_cons, eq_comm, or_comm]
    · rename_i hm
      refine ⟨rfl, fun n hn => ⟨.inl, ?_⟩⟩
      rintro (h | rfl)
      · exact h
      · simpa [isTransferring, hn] using hm

/-- A transfer is finished by a call that says so, and by nothing else, by induction on
the calls. -/
theorem finished_curlCalls (calls : List CurlCall) :
    ∀ c : Client H, (calls.foldl curlCall c).curl.handles = c.curl.handles ∧
      ∀ n ∈ c.curl.handles, n ∈ (calls.foldl curlCall c).curl.finished ↔
        n ∈ c.curl.finished ∨ ∃ call ∈ calls, call.isDone n = true := by
  induction calls with
  | nil => exact fun c => ⟨rfl, by simp⟩
  | cons call calls ih =>
    intro c
    obtain ⟨hhandles, hfinished⟩ := c.finished_curlCall call
    obtain ⟨hhandles', hfinished'⟩ := ih (c.curlCall call)
    refine ⟨hhandles'.trans hhandles, fun n hn => ?_⟩
    rw [List.foldl_cons, hfinished' n (hhandles ▸ hn), hfinished n hn]
    simp [or_assoc]

/-- After a call of curl no transfer is running if the call has ended the last ones. -/
theorem running_curlMulti_eq_zero (c : Client H) :
    c.curlMulti.2.curl.running = 0 ↔ ∀ n ∈ c.curl.handles,
      n ∈ c.curl.finished ∨ ∃ run ∈ c.script.head?, ∃ call ∈ run.calls, call.isDone n = true := by
  have hrunning : ∀ curl : Curl, curl.running = 0 ↔ ∀ n ∈ curl.handles, n ∈ curl.finished := by
    intro curl
    simp [Curl.running]
  rw [hrunning]
  unfold curlMulti
  split
  · rename_i hscript
    simp [hscript]
  · rename_i run script hscript
    obtain ⟨hhandles, hfinished⟩ := finished_curlCalls run.calls { c with script := script }
    rw [hhandles, hscript]
    refine forall₂_congr fun n hn => ?_
    rw [hfinished n hn]
    simp

/-- While curl runs the requests only make progress. -/
theorem curlMulti_progress (c : Client H) :
    Relation.ReflTransGen Requests.Progress c.requests c.curlMulti.2.requests := by
  unfold curlMulti
  split
  · exact .refl
  · rename_i run script _
    suffices h : ∀ (calls : List CurlCall) (c' : Client H),
        Relation.ReflTransGen Requests.Progress c.requests c'.requests →
        Relation.ReflTransGen Requests.Progress c.requests (calls.foldl curlCall c').requests from
      h run.calls _ .refl
    intro calls
    induction calls with
    | nil => exact fun c' h => h
    | cons call calls ih => exact fun c' h => ih _ (h.tail (c'.curlCall_progress call))

end Client

/-! ## What the functions do to the requests -/

/-- The call of a handler, if it is not null. -/
def answers (n : Nat) (handler : Option H) (ec : Option ErrorCode) (response : HttpResponse)
    (pending : Nat) : List (Obs H) :=
  handler.toList.map fun h => .answered n h ec response pending

/-- What `do_request()` records first. -/
def Requests.submit (r : Requests H) (args : RequestArgs H) : Requests H :=
  { r with
    calls := r.calls + 1
    trace := r.trace ++ [.submitted r.calls args] }

/-- The call is rejected, or told something else, without being accepted. -/
def Requests.tell (r : Requests H) (n : Nat) (handler : Option H) (ec : Option ErrorCode)
    (response : HttpResponse) : Requests H :=
  { r with trace := r.trace ++ answers n handler ec response r.pending }

/-- The handle is in the multi. -/
def Requests.accept (r : Requests H) (n : Nat) (conn : ConnContext H) : Requests H :=
  { r with
    pending := r.pending + 1
    connections := r.connections.insert n conn
    handles := n :: r.handles
    trace := r.trace ++ [.accepted n] }

/-- A handle is removed, and its message discarded. -/
def Requests.remove (r : Requests H) (n : Nat) (connections : Map (ConnContext H)) :
    Requests H :=
  { r with
    connections := connections
    handles := r.handles.erase n
    messages := r.messages.filter fun msg => msg.easy ≠ n }

/-- An accepted request ends, and its handler is called. -/
def Requests.finish (r : Requests H) (n : Nat) (handler : Option H) (ec : Option ErrorCode)
    (response : HttpResponse) (pending : Nat) : Requests H :=
  { r with
    pending := pending
    trace := r.trace ++ .ended n :: answers n handler ec response pending }

/-- The one error of `apply_method()`. -/
theorem applyMethod_error (easy : EasyOptions) (method : HttpMethod) (conn : ConnContext H)
    {code : Errc} (h : (Client.applyMethod easy method conn).1 = some code) :
    code = .invalidArgument := by
  cases method <;> simp [Client.applyMethod, toCurlMethod] at h
  exact h.symm

namespace Client

theorem answer_requests (c : Client H) (n : Nat) (handler : Option H) (ec : Option ErrorCode)
    (response : HttpResponse) :
    (c.answer n handler ec response).requests = c.requests.tell n handler ec response := by
  cases handler <;> simp [answer, answers, log, requests, Requests.tell]

theorem finish_requests (c : Client H) (n : Nat) (handler : Option H) (ec : Option ErrorCode)
    (response : HttpResponse) :
    ((c.log (.ended n)).answer n handler ec response).requests =
      c.requests.finish n handler ec response c.pending := by
  rw [answer_requests]
  simp [log, requests, Requests.tell, Requests.finish]

/-- The handle is removed first; what curl then does is progress of the others. -/
theorem curlMultiRemoveHandle_progress (c : Client H) (n : Nat) :
    Relation.ReflTransGen Requests.Progress (c.requests.remove n c.connections)
      (c.curlMultiRemoveHandle n).requests :=
  curlMulti_progress { c with
    curl := { c.curl with
      handles := c.curl.handles.erase n
      messages := c.curl.messages.filter fun msg => msg.easy ≠ n } }

/-- A message whose connection is found. -/
theorem handleMessage_requests {c : Client H} (msg : Message) {conn : ConnContext H}
    (hconn : c.connections.lookup msg.easy = some conn) :
    ∃ r, Relation.ReflTransGen Requests.Progress
        (c.requests.remove msg.easy (c.connections.erase msg.easy)) r ∧
      (c.handleMessage msg).requests = r.finish msg.easy conn.handler
        ((fromCurlCode msg.result).map .errc)
        (if msg.result = .ok then ⟨msg.httpCode, conn.responseBody, conn.responseHeaders⟩ else {})
        (r.pending - 1) := by
  refine ⟨_, curlMultiRemoveHandle_progress
    { c with connections := c.connections.erase msg.easy } msg.easy, ?_⟩
  simp only [handleMessage, hconn]
  rw [finish_requests]
  rfl

/-- `curl_multi_socket_action()`, then `check_multi_info()` unless that has failed. -/
def socketAction (c : Client H) : Client H :=
  match c.curlMultiSocketAction with
  | (true, c) => c.checkMultiInfo
  | (false, c) => c

/-- The request is in the multi. -/
def accept (c : Client H) (n : Nat) (conn : ConnContext H) : Client H :=
  { c.log (.accepted n) with
    pending := c.pending + 1
    connections := c.connections.insert n conn }

/-- What `start_request()` can do: reject the call, or add its handle and let curl
run. -/
inductive StartSpec (c : Client H) (n : Nat) (conn : ConnContext H) (easyInit : Bool) :
    Client H → Prop where
  | rejected {code : Errc} (hcode : code ∈ [Errc.invalidArgument, .operationNotPermitted,
      .resourceUnavailableTryAgain]) :
    StartSpec c n conn easyInit (c.answer n conn.handler (some (.errc code)) {})
  | failed {c' : Client H} (hadd : c.curlMultiAddHandle n = (false, c')) :
    StartSpec c n conn easyInit (c'.answer n conn.handler (some (.errc .ioError)) {})
  | added {c' : Client H} (options : EasyOptions) (hmulti : c.multi = true)
      (heasy : easyInit = true) (hadd : c.curlMultiAddHandle n = (true, c')) :
    StartSpec c n conn easyInit (c'.accept n { conn with easy := some options }).socketAction

/-- Each way in which a request can be started, or not. -/
theorem startRequest_spec (c : Client H) (n : Nat) (conn : ConnContext H) (method : HttpMethod)
    (easyInit : Bool) :
    StartSpec c n conn easyInit (c.startRequest n conn method easyInit) := by
  unfold startRequest
  cases hmulti : c.multi with
  | false => exact .rejected (by simp)
  | true =>
    cases easyInit with
    | false => exact .rejected (by simp)
    | true =>
      rw [if_neg (by simp), if_neg (by simp)]
      split
      · rename_i code easy happly
        obtain rfl : code = .invalidArgument := applyMethod_error {} method conn (by rw [happly])
        exact .rejected (by simp)
      · rename_i easy _
        obtain ⟨options, hconfigure⟩ : ∃ options, c.configureEasyHandle easy conn =
          (none, options) := ⟨_, rfl⟩
        simp only [hconfigure]
        cases hadd : c.curlMultiAddHandle n with
        | mk ok c' =>
          cases ok with
          | false => exact .failed hadd
          | true => exact .added options hmulti rfl hadd

/-- What `event_callback` can do. -/
inductive EventSpec (c : Client H) (id : Nat) : Client H → Prop where
  | ignored (hclosed : c.multi = false ∨ (c.sockets id).isOpen = false) : EventSpec c id c
  | failed (hopen : (c.sockets id).isOpen = true) (hok : c.curlMultiSocketAction.1 = false) :
    EventSpec c id c.socketAction
  | idle (hopen : (c.sockets id).isOpen = true) (hok : c.curlMultiSocketAction.1 = true)
      (hrunning : c.socketAction.stillRunning = 0) :
    EventSpec c id { c.socketAction with timer := c.socketAction.timer.cancel }
  | unwatched (hopen : (c.sockets id).isOpen = true) (hok : c.curlMultiSocketAction.1 = true)
      (hrunning : c.socketAction.stillRunning ≠ 0)
      (haction : c.socketAction.socketActions.lookup (c.sockets id).fd = none) :
    EventSpec c id c.socketAction
  | rearmed (hopen : (c.sockets id).isOpen = true) (hok : c.curlMultiSocketAction.1 = true)
      (hrunning : c.socketAction.stillRunning ≠ 0) {action : CurlPoll}
      (haction : c.socketAction.socketActions.lookup (c.sockets id).fd = some action) :
    EventSpec c id (c.socketAction.armSocketWatches id action)

/-- Each way in which `event_callback()` can go. -/
theorem eventCallback_spec (c : Client H) (id : Nat) : EventSpec c id (c.eventCallback id) := by
  by_cases hclosed : c.multi = false ∨ (c.sockets id).isOpen = false
  · have hsame : c.eventCallback id = c := by
      unfold eventCallback
      rw [if_pos (by simpa using hclosed)]
    rw [hsame]
    exact .ignored hclosed
  · have hopen : (c.sockets id).isOpen = true := by
      simpa using fun h => hclosed (.inr h)
    cases hok : c.curlMultiSocketAction.1 with
    | false =>
      have hfailed : c.eventCallback id = c.socketAction := by
        unfold eventCallback socketAction
        rw [if_neg (by simpa using hclosed)]
        simp only
        generalize c.curlMultiSocketAction = action at hok
        obtain ⟨ok, c₁⟩ := action
        obtain rfl : ok = false := hok
        rfl
      rw [hfailed]
      exact .failed hopen hok
    | true =>
      have hdone : c.eventCallback id =
          if c.socketAction.stillRunning = 0 then
            { c.socketAction with timer := c.socketAction.timer.cancel }
          else
            (c.socketAction.socketActions.lookup (c.sockets id).fd).elim c.socketAction
              (c.socketAction.armSocketWatches id) := by
        unfold eventCallback socketAction
        rw [if_neg (by simpa using hclosed)]
        simp only
        generalize c.curlMultiSocketAction = action at hok
        obtain ⟨ok, c₁⟩ := action
        obtain rfl : ok = true := hok
        dsimp only
        cases c₁.checkMultiInfo.socketActions.lookup (c.sockets id).fd <;> rfl
      rw [hdone]
      by_cases hrunning : c.socketAction.stillRunning = 0
      · rw [if_pos hrunning]
        exact .idle hopen hok hrunning
      · rw [if_neg hrunning]
        cases haction : c.socketAction.socketActions.lookup (c.sockets id).fd with
        | none => exact .unwatched hopen hok hrunning haction
        | some action => exact .rearmed hopen hok hrunning haction

/-- A watch does to the requests what `curl_multi_socket_action()` does. -/
theorem eventCallback_requests (c : Client H) (id : Nat) :
    (c.eventCallback id).requests = c.requests ∨
      (c.eventCallback id).requests = c.socketAction.requests := by
  have hspec := c.eventCallback_spec id
  generalize c.eventCallback id = c' at hspec
  cases hspec with
  | ignored => exact .inl rfl
  | failed | idle | unwatched => exact .inr rfl
  | rearmed => exact .inr (requests_armSocketWatches ..)

/-- The timer's callback is a socket action, if there is a handle to act on. -/
theorem asioTimerCallback_eq (c : Client H) :
    c.asioTimerCallback = if c.multi then c.socketAction else c := by
  unfold asioTimerCallback socketAction
  cases c.multi with
  | false => rfl
  | true =>
    simp only [Bool.not_true, Bool.false_eq_true, if_false, if_true]
    generalize c.curlMultiSocketAction = action
    obtain ⟨ok, c₁⟩ := action
    cases ok <;> rfl

/-- A handle could not be added. -/
theorem curlMultiAddHandle_failed {c c' : Client H} {n : Nat}
    (hadd : c.curlMultiAddHandle n = (false, c')) :
    Relation.ReflTransGen Requests.Progress c.requests c'.requests := by
  unfold curlMultiAddHandle at hadd
  have hcurl := c.curlMulti_progress
  generalize c.curlMulti = added at hcurl hadd
  obtain ⟨_ | _, c₁⟩ := added
  · obtain ⟨-, rfl⟩ := Prod.mk.inj hadd
    exact hcurl
  · cases hadd

/-- A handle was added, and its request is accepted. -/
theorem curlMultiAddHandle_accept {c c' : Client H} {n : Nat} (conn : ConnContext H)
    (hadd : c.curlMultiAddHandle n = (true, c')) :
    ∃ r, Relation.ReflTransGen Requests.Progress c.requests r ∧
      (c'.accept n conn).requests = r.accept n conn := by
  unfold curlMultiAddHandle at hadd
  have hcurl := c.curlMulti_progress
  generalize c.curlMulti = added at hcurl hadd
  obtain ⟨_ | _, c₁⟩ := added
  · cases hadd
  · obtain ⟨-, rfl⟩ := Prod.mk.inj hadd
    exact ⟨_, hcurl, rfl⟩

/-- A connection `do_cancel()` has moved out of the map. -/
theorem cancelConnection_requests {c : Client H} {n : Nat} {conn : ConnContext H}
    (hmulti : c.multi = true) (heasy : conn.easy.isSome = true) :
    ∃ r, Relation.ReflTransGen Requests.Progress (c.requests.remove n c.connections) r ∧
      (c.cancelConnection n conn).requests =
        r.finish n conn.handler (some (.errc .operationCanceled)) {} r.pending := by
  refine ⟨_, c.curlMultiRemoveHandle_progress n, ?_⟩
  unfold cancelConnection
  rw [if_pos (by simp [hmulti, heasy]), finish_requests]
  rfl

/-- **The rule for the first loop of `do_cancel()`.** What holds with `order` still to be
cancelled, and after each cancellation with one request less, holds at the end with none. -/
theorem cancelConnections_rule {I : Client H → List Nat → Prop} {c : Client H} {order : List Nat}
    (hstart : I { c with timer := c.timer.cancel, connections := ∅ } order)
    (hnext : ∀ c' n rest, I c' (n :: rest) → ∃ conn, c.connections.lookup n = some conn ∧
      I (c'.cancelConnection n conn) rest) :
    I (c.cancelConnections order) [] := by
  unfold cancelConnections
  generalize { c with timer := c.timer.cancel, connections := ∅ } = c' at hstart
  induction order generalizing c' with
  | nil => exact hstart
  | cons n rest ih =>
    obtain ⟨conn, hconn, hcancelled⟩ := hnext _ _ _ hstart
    simp only [List.foldl_cons, hconn]
    exact ih _ hcancelled

/-- After its first loop, `do_cancel()` resets the counter and deals with the sockets. -/
theorem doCancel_requests (c : Client H) (order : List Nat) :
    (c.doCancel order).requests = { (c.cancelConnections order).requests with pending := 0 } :=
  List.foldlRecOn
    (motive := fun c' : Client H =>
      c'.requests = { (c.cancelConnections order).requests with pending := 0 })
    (c.cancelConnections order).socketMap.entries _ rfl fun _ hsame _ _ => hsame

end Client

/-! ## The steps of the system -/

/-- A callback uses up the whole script. -/
theorem callback_eq_some {c c' : Client H} {script : List CurlRun} {f : Client H → Client H}
    (h : c.callback script f = some c') :
    c' = f { c with script := script } ∧ (f { c with script := script }).script = [] := by
  unfold Client.callback at h
  simp only at h
  split at h
  · rename_i hscript
    exact ⟨(Option.some.inj h).symm, hscript⟩
  · cases h

/-- What a step is. -/
inductive StepSpec (c : Client H) : Event H → Client H → Prop where
  | request (args : RequestArgs H) (easyInit : Bool) (script : List CurlRun)
      (hscript : (Client.doRequest { c with script := script } args easyInit).script = []) :
    StepSpec c (.request args easyInit script)
      (Client.doRequest { c with script := script } args easyInit)
  | cancel {order : List Nat} (script : List CurlRun) (horder : order.Perm c.connections.keys)
      (hscript : (Client.doCancel { c with script := script } order).script = []) :
    StepSpec c (.cancel order script) (Client.doCancel { c with script := script } order)
  | setCaCertificate (file : Text) :
    StepSpec c (.setCaCertificate file) { c with caCertificateFile := file }
  | watch {id : Nat} {direction : Direction} {socket : TcpSocket} (script : List CurlRun)
      (hdeliver : (c.sockets id).deliver ⟨direction, .fired⟩ = some socket)
      (hscript : (Client.eventCallback { c.updateSocket id fun _ => socket with
        script := script } id).script = []) :
    StepSpec c (.watch id ⟨direction, .fired⟩ script)
      (Client.eventCallback { c.updateSocket id fun _ => socket with script := script } id)
  | watchAborted {id : Nat} {wait : SocketWait} {socket : TcpSocket}
      (hwait : wait.status ≠ .fired) (hdeliver : (c.sockets id).deliver wait = some socket) :
    StepSpec c (.watch id wait []) { c.updateSocket id fun _ => socket with script := [] }
  | timer {wait : Wait Nat} {timer : SteadyTimer Nat} (script : List CurlRun)
      (hwait : wait.status = .fired) (hdeliver : c.timer.deliver wait = some timer) :
    StepSpec c (.timer wait script)
      (Client.asioTimerCallback { c with
        timer := timer
        curl := { c.curl with
          timeout := if c.curl.timeout = some wait.tag then none else c.curl.timeout }
        script := script })
  | timerAborted {wait : Wait Nat} {timer : SteadyTimer Nat}
      (hwait : wait.status ≠ .fired) (hdeliver : c.timer.deliver wait = some timer) :
    StepSpec c (.timer wait []) { c with timer := timer, script := [] }
  | ready {id : Nat} {direction : Direction} {socket : TcpSocket}
      (hfire : (c.sockets id).fire direction = some socket) :
    StepSpec c (.ready id direction) (c.updateSocket id fun _ => socket)
  | tick (elapsed : Nat) : StepSpec c (.tick elapsed) { c with now := c.now + elapsed }
  | expire {wait : Wait Nat} {timer : SteadyTimer Nat}
      (hfire : c.timer.fire wait c.now = some timer) :
    StepSpec c (.expire wait) { c with timer := timer }

/-- Each event with the function that handles it. -/
theorem step_spec {c c' : Client H} {e : Event H} (he : step c e = some c') :
    StepSpec c e c' := by
  cases e with
  | request args easyInit script =>
    obtain ⟨rfl, hscript⟩ := callback_eq_some he
    exact .request args easyInit script hscript
  | cancel order script =>
    simp only [step] at he
    split at he
    · rename_i horder
      obtain ⟨rfl, hscript⟩ := callback_eq_some he
      exact .cancel script horder hscript
    · cases he
  | setCaCertificate file =>
    obtain rfl := Option.some.inj he
    exact .setCaCertificate file
  -- a handler that is called with an error returns at once, so curl makes no call in it
  | watch id wait script =>
    simp only [step, Option.bind_eq_bind] at he
    obtain ⟨socket, hdeliver, he⟩ := Option.bind_eq_some_iff.mp he
    obtain ⟨rfl, hscript⟩ := callback_eq_some he
    obtain ⟨direction, status⟩ := wait
    by_cases hstatus : status = .fired
    · subst hstatus
      exact .watch script hdeliver hscript
    · rw [if_neg hstatus] at hscript ⊢
      obtain rfl : script = [] := hscript
      exact .watchAborted hstatus hdeliver
  | timer wait script =>
    simp only [step, Option.bind_eq_bind] at he
    obtain ⟨timer, hdeliver, he⟩ := Option.bind_eq_some_iff.mp he
    obtain ⟨rfl, hscript⟩ := callback_eq_some he
    by_cases hstatus : wait.status = .fired
    · simp only [hstatus, true_and, if_true]
      exact .timer script hstatus hdeliver
    · simp only [hstatus, false_and, if_false] at hscript ⊢
      obtain rfl : script = [] := hscript
      exact .timerAborted hstatus hdeliver
  | ready id direction =>
    simp only [step, Option.bind_eq_bind] at he
    obtain ⟨socket, hfire, he⟩ := Option.bind_eq_some_iff.mp he
    obtain rfl := Option.some.inj he
    exact .ready hfire
  | tick elapsed =>
    obtain rfl := Option.some.inj he
    exact .tick elapsed
  | expire wait =>
    simp only [step, Option.bind_eq_bind] at he
    obtain ⟨timer, hfire, he⟩ := Option.bind_eq_some_iff.mp he
    obtain rfl := Option.some.inj he
    exact .expire hfire

end CppComponents.HttpsMultiplexClient
