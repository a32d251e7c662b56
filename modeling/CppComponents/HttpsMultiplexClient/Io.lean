import CppComponents.HttpsMultiplexClient.Frame

/-!
# The socket half of the multiplexing client

Sockets, the waits on them and the timer form a machine of their own, `Io`, that
is driven by the calls curl makes. `Io.call` is its step function; the request
half of the client has no say in it. `curlCall_io` connects the two, and
`Follows` is what the functions of the client that let curl run have in common:
they consume a part of curl's script, and the sockets and the timer go where the
calls in it lead.
-/

namespace CppComponents

open HttpsMultiplexClient (CurlPoll)

/-- `arm_socket_watches()`, on the socket. -/
def TcpSocket.armWatches (s : TcpSocket) (action : CurlPoll) : TcpSocket :=
  let s := if action.includes .read then s.asyncWait .read else s
  if action.includes .write then s.asyncWait .write else s

namespace TcpSocket

@[simp] theorem fd_armWatches (s : TcpSocket) (action : CurlPoll) :
    (s.armWatches action).fd = s.fd := by
  cases action <;> rfl

@[simp] theorem isOpen_armWatches (s : TcpSocket) (action : CurlPoll) :
    (s.armWatches action).isOpen = s.isOpen := by
  cases action <;> rfl

/-- One wait is armed for each direction curl is interested in, on an open socket. -/
theorem armed_armWatches (s : TcpSocket) (action : CurlPoll) (direction : Direction) :
    (s.armWatches action).armed direction =
      s.armed direction + if s.isOpen = true ∧ action.includes direction = true then 1 else 0 := by
  cases action <;> cases direction <;>
    simp [armWatches, CurlPoll.includes, armed_asyncWait]

/-- A direction curl is interested in is waited for. -/
theorem live_armWatches {s : TcpSocket} (hopen : s.isOpen = true) {action : CurlPoll}
    {direction : Direction} (h : action.includes direction = true) :
    (s.armWatches action).Live direction := by
  refine .inl (List.count_pos_iff.mp ?_)
  have harmed := s.armed_armWatches action direction
  rw [if_pos ⟨hopen, h⟩] at harmed
  unfold armed at harmed
  omega

/-- After a cancel, the waits are for the directions curl is interested in, and no others. -/
theorem isArmed_set {s : TcpSocket} (hopen : s.isOpen = true) (action : CurlPoll) :
    (s.cancel.armWatches action).isArmed = action.includes := by
  funext direction
  rw [isArmed, armed_armWatches, armed_cancel, isOpen_cancel, hopen]
  cases action.includes direction <;> rfl

end TcpSocket

namespace HttpsMultiplexClient

open CppComponents.Transition

variable {H : Type}

/-- The fields of the sockets and the timer. -/
structure Io where
  timer : SteadyTimer Nat
  now : Int
  socketMap : Map Nat
  socketActions : Map CurlPoll
  sockets : Nat → TcpSocket
  opened : Nat
  timeouts : Nat
  interest : Nat → CurlPoll
  owned : List Nat
  timeout : Option Nat
  closed : List Close

def Client.io (c : Client H) : Io :=
  ⟨c.timer, c.now, c.socketMap, c.socketActions, c.sockets, c.opened, c.timeouts,
    c.curl.interest, c.curl.owned, c.curl.timeout, c.closed⟩

/-! ## The machine -/

namespace Io

def updateSocket (s : Io) (id : Nat) (f : TcpSocket → TcpSocket) : Io :=
  { s with sockets := Function.update s.sockets id (f (s.sockets id)) }

def closeSocket (s : Io) (id : Nat) : Io :=
  { s.updateSocket id .close with closed := s.closed ++ [⟨id, id ∈ s.owned⟩] }

def setSocket (s : Io) (fd : Nat) (action : CurlPoll) : Io :=
  let s := { s with interest := Function.update s.interest fd action }
  match s.socketMap.lookup fd with
  | none => s
  | some id =>
    { s with socketActions := s.socketActions.insert fd action }.updateSocket id
      (·.cancel.armWatches action)

theorem setSocket_of_none {s : Io} {fd : Nat} (h : s.socketMap.lookup fd = none)
    (action : CurlPoll) :
    s.setSocket fd action = { s with interest := Function.update s.interest fd action } := by
  simp only [setSocket, h]

/-- The waits of one that is are replaced. -/
theorem setSocket_of_some {s : Io} {fd id : Nat} (h : s.socketMap.lookup fd = some id)
    (action : CurlPoll) : s.setSocket fd action = { s with
      interest := Function.update s.interest fd action
      socketActions := s.socketActions.insert fd action
      sockets := Function.update s.sockets id ((s.sockets id).cancel.armWatches action) } := by
  simp only [setSocket, h]
  rfl

def removeSocket (s : Io) (fd : Nat) : Io :=
  { s with
    interest := Function.update s.interest fd .pollNone
    socketActions := s.socketActions.erase fd }

def setTimer (s : Io) (timeoutMs : Int) : Io :=
  if timeoutMs < 0 then
    { s with timer := s.timer.cancel, timeout := none, timeouts := s.timeouts + 1 }
  else
    { s with
      timer := (s.timer.cancel.expiresAt (s.now + timeoutMs)).asyncWait s.timeouts
      timeout := some s.timeouts
      timeouts := s.timeouts + 1 }

def openDescriptors (s : Io) : List Nat :=
  ((List.range s.opened).filter fun id => (s.sockets id).isOpen).map fun id => (s.sockets id).fd

def freeDescriptor (s : Io) (choice : Nat) : Nat :=
  if choice ∈ s.openDescriptors then s.openDescriptors.sum + 1 else choice

def storeSocket (s : Io) (fd : Nat) : Io :=
  let id := s.opened
  let s := { s with
    sockets := Function.update s.sockets id ⟨fd, true, []⟩
    opened := id + 1 }
  match s.socketMap.lookup fd with
  | none => { s with socketMap := s.socketMap.insert fd id }
  | some _ => s.closeSocket id

/-- Curl obtains a socket with a descriptor that is free. -/
def openSocket (s : Io) (choice : Nat) : Io :=
  let fd := s.freeDescriptor choice
  let id := s.opened
  let s := s.storeSocket fd
  { s with
    owned := s.owned ++ [id]
    interest := Function.update s.interest fd .pollNone }

/-- Curl releases the descriptor of a socket. -/
def releaseSocket (s : Io) (id : Nat) : Io :=
  let fd := (s.sockets id).fd
  let s := { s with owned := s.owned.erase id, socketActions := s.socketActions.erase fd }
  match s.socketMap.lookup fd with
  | none => s
  | some id => { s.closeSocket id with socketMap := s.socketMap.erase fd }

/-- A descriptor without a socket in `socket_map` has none to close. -/
theorem releaseSocket_of_none {s : Io} {id : Nat}
    (h : s.socketMap.lookup (s.sockets id).fd = none) : s.releaseSocket id = { s with
      owned := s.owned.erase id
      socketActions := s.socketActions.erase (s.sockets id).fd } := by
  simp only [releaseSocket, h]

/-- The socket it has is closed and taken out. -/
theorem releaseSocket_of_some {s : Io} {id mapped : Nat}
    (h : s.socketMap.lookup (s.sockets id).fd = some mapped) : s.releaseSocket id = { s with
      owned := s.owned.erase id
      socketActions := s.socketActions.erase (s.sockets id).fd
      socketMap := s.socketMap.erase (s.sockets id).fd
      sockets := Function.update s.sockets mapped (s.sockets mapped).close
      closed := s.closed ++ [⟨mapped, mapped ∈ s.owned.erase id⟩] } := by
  simp only [releaseSocket, h]
  rfl

/-- What `do_cancel()` does last. -/
def closeAll (s : Io) : Io :=
  { s.socketMap.entries.foldl (fun s entry => s.closeSocket entry.2) s with
    socketMap := ∅
    socketActions := ∅ }

/-- The calls of curl for which `open_socket_callback` has a socket to give. -/
def Opens : CurlCall → Bool
  | .openSocket purpose family openError nonBlockingError _ =>
    purpose = .ipConnection ∧ family ≠ .other ∧ !openError ∧ !nonBlockingError
  | _ => false

/-- What a call curl makes does to the sockets and the timer. -/
def call (s : Io) : CurlCall → Io
  | .socket fd what _ => if what = .pollRemove then s.removeSocket fd else s.setSocket fd what
  | .timer timeoutMs => s.setTimer timeoutMs
  | .openSocket purpose family openError nonBlockingError choice =>
    if Opens (.openSocket purpose family openError nonBlockingError choice) then
      s.openSocket choice
    else s
  | .closeSocket id => if id ∈ s.owned then s.releaseSocket id else s
  | .write .. | .header .. | .done .. => s

end Io

/-! ## The client's sockets and timer are the machine -/

namespace Client

/-- `arm_socket_watches()` is about one socket. -/
theorem armSocketWatches_eq (c : Client H) (id : Nat) (action : CurlPoll) :
    c.armSocketWatches id action = c.updateSocket id (·.armWatches action) := by
  cases action <;>
    simp [armSocketWatches, TcpSocket.armWatches, CurlPoll.includes, updateSocket]

/-- `handle_set_socket()` sets the interest, and arms the waits for it. -/
theorem handleSetSocket_io (c : Client H) (fd : Nat) (action : CurlPoll) (actionp : Nat) :
    (Client.handleSetSocket { c with
        curl := { c.curl with interest := Function.update c.curl.interest fd action } }
      fd action actionp).io = c.io.setSocket fd action := by
  unfold handleSetSocket Io.setSocket
  simp only
  cases hfd : c.socketMap.lookup fd with
  | none => rw [show c.io.socketMap = c.socketMap from rfl, hfd]; rfl
  | some id =>
    rw [show c.io.socketMap = c.socketMap from rfl, hfd]
    simp only
    rw [armSocketWatches_eq]
    simp [updateSocket, Io.updateSocket, io]

/-- `handle_timeout_event()` sets the timer, or cancels it. -/
theorem handleTimeoutEvent_io (c : Client H) (timeoutMs : Int) :
    (c.curlCall (.timer timeoutMs)).io = c.io.setTimer timeoutMs := by
  simp only [curlCall, handleTimeoutEvent, Io.setTimer]
  split <;> rfl

/-- A socket that was opened is put into `socket_map`. -/
theorem storeSocket_io (c : Client H) (fd : Nat) : (c.storeSocket fd).io = c.io.storeSocket fd := by
  unfold storeSocket Io.storeSocket
  rw [show c.io.socketMap = c.socketMap from rfl]
  simp only
  cases c.socketMap.lookup fd <;> rfl

/-- `handle_close_socket()` gives a descriptor back. -/
theorem handleCloseSocket_io (c : Client H) {id : Nat} (hid : id ∈ c.curl.owned) :
    (c.curlCall (.closeSocket id)).io = c.io.releaseSocket id := by
  simp only [curlCall, if_pos hid]
  unfold handleCloseSocket Io.releaseSocket
  rw [show c.io.socketMap = c.socketMap from rfl, show c.io.sockets = c.sockets from rfl]
  simp only
  cases c.socketMap.lookup (c.sockets id).fd <;> rfl

/-- `handle_open_socket()` opens a socket, if nothing fails. -/
theorem handleOpenSocket_io (c : Client H) (purpose : SocketPurpose) (family : AddressFamily)
    (openError nonBlockingError : Bool) (choice : Nat) :
    (c.curlCall (.openSocket purpose family openError nonBlockingError choice)).io =
      c.io.call (.openSocket purpose family openError nonBlockingError choice) := by
  have hstore := c.storeSocket_io (c.freeDescriptor choice)
  by_cases hopens : Io.Opens (.openSocket purpose family openError nonBlockingError choice) = true
  · rw [Io.call, if_pos hopens]
    have hsome : c.handleOpenSocket purpose family openError nonBlockingError
        (c.freeDescriptor choice) =
          (some (c.freeDescriptor choice), c.storeSocket (c.freeDescriptor choice)) := by
      obtain ⟨hpurpose, hfamily, hopen, hblocking⟩ := of_decide_eq_true hopens
      simp only [Bool.not_eq_true'] at hopen hblocking
      simp [handleOpenSocket, hpurpose, hfamily, hopen, hblocking]
    simp only [curlCall, hsome, Io.openSocket]
    rw [show c.io.freeDescriptor choice = c.freeDescriptor choice from rfl, ← hstore]
    rfl
  · rw [Io.call, if_neg hopens]
    have hnone : c.handleOpenSocket purpose family openError nonBlockingError
        (c.freeDescriptor choice) = (none, c) := by
      unfold handleOpenSocket
      by_cases hpurpose : purpose = .ipConnection <;> by_cases hfamily : family = .other <;>
        cases openError <;> cases nonBlockingError <;>
        simp_all [Io.Opens]
    simp only [curlCall, hnone]

/-- `socket_callback` for a descriptor that is to be removed, or watched. -/
theorem handleSocketEvent_io (c : Client H) (fd : Nat) (what : CurlPoll) (assignOk : Bool) :
    (c.curlCall (.socket fd what assignOk)).io = c.io.call (.socket fd what assignOk) := by
  by_cases hwhat : what = .pollRemove
  · subst hwhat
    simp only [curlCall, handleSocketEvent, Io.call, if_true]
    cases c.curl.assigned.lookup fd <;> rfl
  · simp only [curlCall, handleSocketEvent, Io.call, if_neg hwhat]
    cases c.curl.assigned.lookup fd with
    | none =>
      simp only [handleAddSocket]
      cases assignOk <;> exact c.handleSetSocket_io fd what c.allocated
    | some actionp => exact c.handleSetSocket_io fd what actionp

/-- A call of curl drives the machine. -/
theorem curlCall_io (c : Client H) (call : CurlCall) : (c.curlCall call).io = c.io.call call := by
  cases call with
  | socket fd what assignOk => exact c.handleSocketEvent_io fd what assignOk
  | timer timeoutMs => exact c.handleTimeoutEvent_io timeoutMs
  | openSocket purpose family openError nonBlockingError choice =>
    exact c.handleOpenSocket_io purpose family openError nonBlockingError choice
  | closeSocket id =>
    by_cases hid : id ∈ c.curl.owned
    · rw [c.handleCloseSocket_io hid]
      exact (if_pos hid).symm
    · simp only [curlCall, if_neg hid]
      exact (if_neg hid).symm
  | write n data =>
    simp only [curlCall, Io.call]
    split
    · unfold writeCallback
      split <;> rfl
    · rfl
  | header n line =>
    simp only [curlCall, Io.call]
    split
    · unfold headerCallback
      split <;> rfl
    · rfl
  | done n result httpCode =>
    simp only [curlCall, Io.call]
    split <;> rfl

/-- After its first loop, `do_cancel()` closes the sockets in the map. -/
theorem doCancel_io (c : Client H) (order : List Nat) :
    (c.doCancel order).io = (c.cancelConnections order).io.closeAll ∧
      (c.doCancel order).script = (c.cancelConnections order).script := by
  let c₁ : Client H := { c.cancelConnections order with pending := 0 }
  have hio : c₁.socketMap.entries.foldl (fun s entry => s.closeSocket entry.2) c₁.io =
      (c₁.socketMap.entries.foldl (fun c entry => c.closeSocket entry.2) c₁).io :=
    List.foldl_hom io fun _ _ => rfl
  constructor
  · show _ = { c₁.socketMap.entries.foldl (fun s entry => s.closeSocket entry.2) c₁.io with
      socketMap := ∅, socketActions := ∅ }
    rw [hio]
    rfl
  · exact List.foldlRecOn (motive := fun c' : Client H => c'.script = c₁.script)
      c₁.socketMap.entries _ rfl fun _ hsame _ _ => hsame

/-! ## Consuming a script -/

/-- Neither the script nor curl's count is changed from inside a callback. -/
theorem script_handleSetSocket (c : Client H) (fd : Nat) (action : CurlPoll) (actionp : Nat) :
    (c.handleSetSocket fd action actionp).script = c.script ∧
      (c.handleSetSocket fd action actionp).stillRunning = c.stillRunning := by
  unfold handleSetSocket
  split
  · exact ⟨rfl, rfl⟩
  · rw [armSocketWatches_eq]
    exact ⟨rfl, rfl⟩

/-- No callback of curl touches the script, or `still_running`. -/
theorem script_curlCall (c : Client H) (call : CurlCall) :
    (c.curlCall call).script = c.script ∧
      (c.curlCall call).stillRunning = c.stillRunning := by
  cases call with
  | socket fd what assignOk =>
    have hset := script_handleSetSocket { c with
      curl := { c.curl with interest := Function.update c.curl.interest fd what } } fd what
    -- `handle_set_socket()` is what the two ways to add a socket have in common
    by_cases hwhat : what = .pollRemove
    · subst hwhat
      simp only [curlCall, handleSocketEvent, if_true]
      cases c.curl.assigned.lookup fd <;> exact ⟨rfl, rfl⟩
    · simp only [curlCall, handleSocketEvent, if_neg hwhat]
      cases c.curl.assigned.lookup fd with
      | none =>
        simp only [handleAddSocket]
        cases assignOk <;> exact hset c.allocated
      | some actionp => exact hset actionp
  | timer timeoutMs =>
    simp only [curlCall, handleTimeoutEvent]
    split <;> exact ⟨rfl, rfl⟩
  | openSocket purpose family openError nonBlockingError choice =>
    simp only [curlCall]
    rcases c.handleOpenSocket_cases purpose family openError nonBlockingError
      (c.freeDescriptor choice) with hopen | hopen
    · rw [hopen]
      exact ⟨rfl, rfl⟩
    · rw [hopen]
      simp only [storeSocket]
      split <;> exact ⟨rfl, rfl⟩
  | closeSocket id =>
    simp only [curlCall, handleCloseSocket]
    split
    · split <;> exact ⟨rfl, rfl⟩
    · exact ⟨rfl, rfl⟩
  | write n data =>
    simp only [curlCall, writeCallback]
    split
    · split <;> exact ⟨rfl, rfl⟩
    · exact ⟨rfl, rfl⟩
  | header n line =>
    simp only [curlCall, headerCallback]
    split
    · split <;> exact ⟨rfl, rfl⟩
    · exact ⟨rfl, rfl⟩
  | done n result httpCode =>
    simp only [curlCall]
    split <;> exact ⟨rfl, rfl⟩

/-- The calls of one `curl_multi_*` call, one after the other. -/
theorem foldl_curlCall (calls : List CurlCall) (c : Client H) :
    (calls.foldl curlCall c).io = calls.foldl Io.call c.io ∧
      (calls.foldl curlCall c).script = c.script ∧
      (calls.foldl curlCall c).stillRunning = c.stillRunning := by
  induction calls generalizing c with
  | nil => exact ⟨rfl, rfl, rfl⟩
  | cons call calls ih =>
    obtain ⟨hio, hscript, hrunning⟩ := ih (c.curlCall call)
    exact ⟨by rw [List.foldl_cons, hio, curlCall_io, List.foldl_cons],
      by rw [List.foldl_cons, hscript, (c.script_curlCall call).1],
      by rw [List.foldl_cons, hrunning, (c.script_curlCall call).2]⟩

/-- The call fails if the script says so. -/
theorem curlMultiSocketAction_failed (c : Client H) :
    c.curlMultiSocketAction.1 = false ↔ c.script.head?.any (!·.ok) = true := by
  unfold curlMultiSocketAction curlMulti
  cases c.script <;> simp

/-- Only `curl_multi_socket_action()` writes `still_running`. -/
theorem stillRunning_curlMulti (c : Client H) : c.curlMulti.2.stillRunning = c.stillRunning := by
  unfold curlMulti
  split
  · rfl
  · exact (foldl_curlCall _ _).2.2

theorem stillRunning_answer (c : Client H) (n : Nat) (handler : Option H)
    (ec : Option ErrorCode) (response : HttpResponse) :
    (c.answer n handler ec response).stillRunning = c.stillRunning := by
  cases handler <;> rfl

/-- A message that is read does not change it. -/
theorem stillRunning_handleMessage (c : Client H) (msg : Message) :
    (c.handleMessage msg).stillRunning = c.stillRunning := by
  unfold handleMessage
  split
  · exact stillRunning_curlMulti _
  · exact (stillRunning_answer ..).trans (stillRunning_curlMulti _)

/-- `check_multi_info()` leaves `still_running`. -/
theorem stillRunning_readMessages (fuel : Nat) :
    ∀ c : Client H, (c.readMessages fuel).stillRunning = c.stillRunning := by
  induction fuel with
  | zero => exact fun _ => rfl
  | succ fuel ih =>
    intro c
    rw [readMessages]
    split
    · rfl
    · exact (ih _).trans (stillRunning_handleMessage _ _)

/-- `still_running` is the number of transfers that ran after
`curl_multi_socket_action()`. -/
theorem stillRunning_socketAction (c : Client H) :
    c.socketAction.stillRunning = c.curlMulti.2.curl.running := by
  unfold socketAction curlMultiSocketAction
  generalize c.curlMulti = action
  obtain ⟨_ | _, c₁⟩ := action
  · rfl
  · exact stillRunning_readMessages _ _

theorem io_answer (c : Client H) (n : Nat) (handler : Option H) (ec : Option ErrorCode)
    (response : HttpResponse) : (c.answer n handler ec response).io = c.io := by
  cases handler <;> rfl

/-- From `c` to `c'` curl has done the first part of its script, and nobody else has
touched the sockets and the timer. -/
def Follows (c c' : Client H) : Prop :=
  ∃ runs, c.script = runs ++ c'.script ∧
    c'.io = (runs.flatMap CurlRun.calls).foldl Io.call c.io

namespace Follows

variable {c c' c₁ c₂ c₃ : Client H}

theorem of_eq (hscript : c'.script = c.script) (hio : c'.io = c.io) : Follows c c' :=
  ⟨[], hscript.symm, hio⟩

/-- The scripts are consumed one after the other. -/
theorem trans (h₁ : Follows c₁ c₂) (h₂ : Follows c₂ c₃) : Follows c₁ c₃ := by
  obtain ⟨runs, hscript, hio⟩ := h₁
  obtain ⟨runs', hscript', hio'⟩ := h₂
  refine ⟨runs ++ runs', ?_, ?_⟩
  · rw [hscript, hscript', List.append_assoc]
  · rw [hio', hio, List.flatMap_append, List.foldl_append]

/-- What every call of curl keeps is kept. -/
theorem invariant (h : Follows c c') {I : Io → Prop} (hcall : ∀ s call, I s → I (s.call call))
    (hI : I c.io) : I c'.io := by
  obtain ⟨runs, -, hio⟩ := h
  rw [hio]
  generalize runs.flatMap CurlRun.calls = calls
  generalize c.io = s at hI
  induction calls generalizing s with
  | nil => exact hI
  | cons call calls ih => exact ih _ (hcall _ call hI)

/-- One `curl_multi_*` call consumes the calls it makes. -/
theorem curlMulti (c : Client H) : Follows c c.curlMulti.2 := by
  unfold Client.curlMulti
  split
  · exact of_eq rfl rfl
  · rename_i run script hscript
    obtain ⟨hio, hrest, -⟩ := foldl_curlCall run.calls { c with script := script }
    refine ⟨[run], ?_, ?_⟩
    · rw [hscript, hrest]
      rfl
    · rw [hio, List.flatMap_singleton]
      rfl

theorem curlMultiSocketAction (c : Client H) : Follows c c.curlMultiSocketAction.2 :=
  (curlMulti c).trans (of_eq rfl rfl)

/-- Removing a handle is such a call. -/
theorem curlMultiRemoveHandle (c : Client H) (n : Nat) : Follows c (c.curlMultiRemoveHandle n) := by
  refine trans ?_ (curlMulti _)
  exact of_eq rfl rfl

/-- A response handler consumes none. -/
theorem answer (c : Client H) (n : Nat) (handler : Option H) (ec : Option ErrorCode)
    (response : HttpResponse) : Follows c (c.answer n handler ec response) := by
  refine of_eq ?_ (c.io_answer n handler ec response)
  cases handler <;> rfl

/-- A message that is read removes its handle. -/
theorem handleMessage (c : Client H) (msg : Message) : Follows c (c.handleMessage msg) := by
  unfold Client.handleMessage
  split
  · refine trans ?_ (curlMultiRemoveHandle _ msg.easy)
    exact of_eq rfl rfl
  · rename_i conn _
    refine trans ?_ (answer _ msg.easy conn.handler _ _)
    refine trans (trans ?_ (curlMultiRemoveHandle { c with
      connections := c.connections.erase msg.easy } msg.easy)) ?_
    · exact of_eq rfl rfl
    · exact of_eq rfl rfl

/-- The loop, by induction on the messages that are left. -/
theorem readMessages (fuel : Nat) : ∀ c : Client H, Follows c (c.readMessages fuel) := by
  induction fuel with
  | zero => exact fun c => of_eq rfl rfl
  | succ fuel ih =>
    intro c
    rw [Client.readMessages]
    split
    · exact of_eq rfl rfl
    · rename_i msg messages _
      refine trans (trans ?_ (handleMessage { c with
        curl := { c.curl with messages := messages } } msg)) (ih _)
      exact of_eq rfl rfl

theorem checkMultiInfo (c : Client H) : Follows c c.checkMultiInfo := readMessages _ c

/-- Adding a handle is such a call, too. -/
theorem curlMultiAddHandle (c : Client H) (n : Nat) : Follows c (c.curlMultiAddHandle n).2 := by
  have hmulti := curlMulti c
  unfold Client.curlMultiAddHandle
  generalize c.curlMulti = added at hmulti
  obtain ⟨ok, c₁⟩ := added
  cases ok with
  | false => exact hmulti
  | true => exact hmulti.trans (of_eq rfl rfl)

/-- Curl acts, and then the messages are read. -/
theorem socketAction (c : Client H) : Follows c c.socketAction := by
  have haction := curlMultiSocketAction c
  unfold Client.socketAction
  generalize c.curlMultiSocketAction = action at haction
  obtain ⟨_ | _, c₁⟩ := action
  · exact haction
  · exact haction.trans (checkMultiInfo c₁)

/-- A request adds its handle and lets curl act, or fails before. -/
theorem startRequest (c : Client H) (n : Nat) (conn : ConnContext H) (method : HttpMethod)
    (easyInit : Bool) : Follows c (c.startRequest n conn method easyInit) := by
  have hspec := c.startRequest_spec n conn method easyInit
  have hadded := curlMultiAddHandle c n
  generalize c.startRequest n conn method easyInit = c' at hspec
  cases hspec with
  | rejected hcode => exact answer ..
  | failed hadd =>
    rw [hadd] at hadded
    exact hadded.trans (answer ..)
  | @added c' options hmulti heasy hadd =>
    rw [hadd] at hadded
    have haccept : Follows c' (c'.accept n { conn with easy := some options }) := of_eq rfl rfl
    exact (hadded.trans haccept).trans (socketAction _)

/-- So does `do_request()`, which may refuse the method. -/
theorem doRequest (c : Client H) (args : RequestArgs H) (easyInit : Bool) :
    Follows c (c.doRequest args easyInit) := by
  have hsubmit : Follows c { c.log (.submitted c.calls args) with calls := c.calls + 1 } :=
    of_eq rfl rfl
  unfold Client.doRequest
  simp only
  split
  · exact hsubmit.trans (answer ..)
  · exact hsubmit.trans (startRequest ..)

/-- The timer lets curl act. -/
theorem asioTimerCallback (c : Client H) : Follows c c.asioTimerCallback := by
  rw [Client.asioTimerCallback_eq]
  split
  · exact socketAction c
  · exact of_eq rfl rfl

/-- Cancelling a request removes its handle. -/
theorem cancelConnection (c : Client H) (n : Nat) (conn : ConnContext H) :
    Follows c (c.cancelConnection n conn) := by
  have hended : ∀ c' : Client H, Follows c' (c'.log (.ended n)) := fun c' => of_eq rfl rfl
  unfold Client.cancelConnection
  simp only
  split
  · exact ((curlMultiRemoveHandle c n).trans (hended _)).trans (answer ..)
  · exact (hended c).trans (answer ..)

/-- The first loop of `do_cancel()`, after it has cancelled the timer. -/
theorem cancelConnections (c : Client H) (order : List Nat) :
    Follows { c with timer := c.timer.cancel } (c.cancelConnections order) := by
  refine List.foldlRecOn (motive := Follows { c with timer := c.timer.cancel }) order _
    (of_eq rfl rfl) fun c' hfollows n _ => ?_
  split
  · exact hfollows
  · exact hfollows.trans (cancelConnection ..)

end Follows

end Client

end HttpsMultiplexClient

end CppComponents
