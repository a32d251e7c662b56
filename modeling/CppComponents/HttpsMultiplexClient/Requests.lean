import CppComponents.HttpsMultiplexClient.Records

/-!
# Every request is answered once

A request lives in three places: the counter `pending`, the map `connections`,
and curl's multi handle. `Serving` says that they agree, and that the records
are as they should be, for the moments between two callbacks and after every
turn of the loop of `check_multi_info()`. Inside `do_request()` and
`do_cancel()` other things hold for a while: `Asked`, of a call that is neither
rejected nor accepted yet, and `Canceling`, of the connections that have been
moved out of the map.
-/

namespace CppComponents.HttpsMultiplexClient

open CppComponents.Transition

variable {H : Type}

/-! ## Between two callbacks -/

/-- What holds between two callbacks, and after every call curl makes outside
`do_cancel()`. -/
structure Serving (r : Requests H) : Prop where
  recorded : Recorded r (fun n => n ∈ r.handles) r.calls
  keys : r.connections.keys.Perm r.handles
  pending : r.pending = r.handles.length
  multi : r.multi = false → r.handles = []

namespace Serving

variable {r r' : Requests H} {c : Client H}

/-- A new client serves nothing. -/
theorem init (multi : Bool) (now : Int) :
    Serving (Client.create multi now : Client H).requests where
  recorded := {
    bound := Nat.le_refl _
    liveLt := fun n hn => by cases hn
    handles := fun n hn => by cases hn
    finished := fun n hn => by cases hn
    messages := fun msg hmsg => by cases hmsg
    fresh := fun n _ => rfl
    running := fun n hn => by cases hn
    ended := fun n hn => by cases hn
    found := fun hmem => by cases hmem }
  keys := .rfl
  pending := rfl
  multi := fun _ => rfl

theorem nodup (h : Serving r) : r.handles.Nodup :=
  h.keys.nodup_iff.mp r.connections.keys_nodup

/-- What curl does on its own keeps the account of the requests. -/
theorem curl (h : Serving r) (hp : Relation.ReflTransGen Requests.Progress r r') :
    Serving r' := by
  obtain ⟨hhandles, hpending, hmulti, hcalls, hkeys⟩ := curl_frame hp
  exact {
    recorded := by
      rw [hcalls, hhandles]
      exact h.recorded.curl hp
    keys := by
      rw [hhandles]
      exact hkeys.trans h.keys
    pending := by rw [hpending, hhandles, h.pending]
    multi := by
      rw [hmulti, hhandles]
      exact h.multi }

/-- The connection of a request in the multi is in the map. -/
theorem exists_connection (h : Serving c.requests) {n : Nat} (hn : n ∈ c.curl.handles) :
    ∃ conn, c.connections.lookup n = some conn := by
  have hkey : n ∈ c.connections.keys := h.keys.mem_iff.mpr hn
  exact Option.isSome_iff_exists.mp (AList.lookup_isSome.mpr (AList.mem_keys.mpr hkey))

/-- The next message is of a transfer in the multi. -/
theorem message_mem (h : Serving c.requests) {msg : Message} {messages : List Message}
    (hmessages : c.curl.messages = msg :: messages) :
    msg ∈ c.requests.messages ∧ msg.easy ∈ c.requests.handles := by
  have hmem : msg ∈ c.requests.messages := by
    rw [show c.requests.messages = c.curl.messages from rfl, hmessages]
    exact List.mem_cons_self
  exact ⟨hmem, h.recorded.messages msg hmem⟩

/-- One turn of the loop of `check_multi_info()`: the message is of a transfer in
the multi, so its connection is found, and its request ends. -/
theorem handleMessage (h : Serving c.requests) {msg : Message} {messages : List Message}
    (hmessages : c.curl.messages = msg :: messages) :
    Serving ({ c with curl := { c.curl with messages := messages } }.handleMessage msg).requests ∧
      ({ c with curl := { c.curl with messages := messages } }.handleMessage msg).curl.handles =
        c.curl.handles.erase msg.easy := by
  obtain ⟨n, result, httpCode⟩ := msg
  obtain ⟨hmem, hhandle⟩ := h.message_mem hmessages
  obtain ⟨conn, hconn⟩ := h.exists_connection hhandle
  obtain ⟨args, data, done, hrunning⟩ := h.recorded.running n hhandle
  have hmatches := hrunning.conn conn hconn
  obtain rfl : done = some (result, httpCode) := hrunning.message _ hmem rfl
  have hothers : ∀ m conn', (c.connections.erase n).lookup m = some conn' →
      c.requests.connections.lookup m = some conn' := fun m conn' hlookup => by
    by_cases hne : m = n
    · subst hne
      rw [AList.lookup_erase] at hlookup
      cases hlookup
    · rwa [AList.lookup_erase_ne hne] at hlookup
  obtain ⟨r, hprogress, hr⟩ := Client.handleMessage_requests
    (c := { c with curl := { c.curl with messages := messages } }) ⟨n, result, httpCode⟩ hconn
  -- the message is discarded twice: it is taken off the queue, and `curl_multi_remove_handle()`
  -- drops what is left of the handle
  have hpopped : c.requests.remove n (c.connections.erase n) =
      (Client.requests { c with curl := { c.curl with messages := messages } }).remove n
        (c.connections.erase n) := by
    simp [Requests.remove, Client.requests, hmessages]
  rw [← hpopped] at hprogress
  obtain ⟨hhandles, hpending, hmulti, hcalls, hkeys⟩ := curl_frame hprogress
  have hhandles : r.handles = c.requests.handles.erase n := hhandles
  have hcalls : r.calls = c.requests.calls := hcalls
  have hpending : r.pending = c.requests.pending := hpending
  -- what the handler is given is what the record of the request says
  have hfate : Fate n args (c.requests.about n ++ .ended n :: answers n conn.handler
      ((fromCurlCode result).map .errc)
      (if result = .ok then ⟨httpCode, conn.responseBody, conn.responseHeaders⟩ else {})
      (r.pending - 1)) := by
    rw [hrunning.record, hmatches.handler, hmatches.body, hmatches.headers]
    exact .finished data result httpCode _
  have hended := h.recorded.conclude hothers hprogress hhandle h.nodup hfate
  rw [← hcalls] at hended
  refine ⟨?_, ?_⟩
  · rw [hr]
    exact {
      recorded := hended.congr fun m => by
        show m ∈ c.requests.handles ∧ m ≠ n ↔ m ∈ r.handles
        rw [hhandles, h.nodup.mem_erase_iff]
        exact and_comm
      keys := by
        show r.connections.keys.Perm r.handles
        rw [hhandles]
        refine hkeys.trans ?_
        show (c.connections.erase n).keys.Perm (c.requests.handles.erase n)
        rw [AList.keys_erase]
        exact h.keys.erase n
      pending := by
        show r.pending - 1 = r.handles.length
        rw [hhandles, hpending, h.pending, List.length_erase_of_mem hhandle]
      multi := fun hnone => by
        show r.handles = []
        rw [hhandles, h.multi (hmulti ▸ hnone)]
        rfl }
  · exact (congrArg Requests.handles hr).trans hhandles

/-- The loop of `check_multi_info()` answers the transfers that are done, and reads
every message there is. -/
theorem readMessages {fuel : Nat} : ∀ {c : Client H}, Serving c.requests →
    c.curl.handles.length ≤ fuel →
    Serving (Client.readMessages fuel c).requests ∧
      (Client.readMessages fuel c).curl.messages = [] := by
  induction fuel with
  | zero =>
    intro c h hfuel
    have hnone : c.curl.handles = [] := List.length_eq_zero_iff.mp (Nat.le_zero.mp hfuel)
    refine ⟨h, List.eq_nil_iff_forall_not_mem.mpr fun msg hmsg => ?_⟩
    have hmem : msg.easy ∈ c.curl.handles := h.recorded.messages msg hmsg
    rw [hnone] at hmem
    cases hmem
  | succ fuel ih =>
    intro c h hfuel
    rw [Client.readMessages]
    split
    · rename_i hmessages
      exact ⟨h, hmessages⟩
    · rename_i msg messages hmessages
      have hmem : msg.easy ∈ c.curl.handles := (h.message_mem hmessages).2
      obtain ⟨hnext, hhandles⟩ := h.handleMessage hmessages
      refine ih hnext ?_
      rw [hhandles, List.length_erase_of_mem hmem]
      omega

/-- Its fuel is enough. -/
theorem checkMultiInfo (h : Serving c.requests) :
    Serving c.checkMultiInfo.requests ∧ c.checkMultiInfo.curl.messages = [] :=
  readMessages h (Nat.le_refl _)

end Serving

/-! ## What a socket action keeps -/

/-- `P` is kept by what curl does on its own and by each turn of the loop of
`check_multi_info()`. -/
structure KeptByCurl (P : Requests H → Prop) : Prop where
  progress : ∀ {r r' : Requests H}, P r → Relation.ReflTransGen Requests.Progress r r' → P r'
  message : ∀ {c : Client H} {msg : Message} {messages : List Message}, P c.requests →
    Serving c.requests → c.curl.messages = msg :: messages →
    P ({ c with curl := { c.curl with messages := messages } }.handleMessage msg).requests

theorem Serving.keptByCurl : KeptByCurl (Serving (H := H)) where
  progress := fun h hp => h.curl hp
  message := fun h _ hmessages => (h.handleMessage hmessages).1

namespace KeptByCurl

variable {P : Requests H → Prop} {c : Client H}

/-- By induction on the fuel: what curl and each message keep is kept by the loop of
`check_multi_info()`. -/
theorem readMessages (hP : KeptByCurl P) (fuel : Nat) : ∀ {c : Client H}, P c.requests →
    Serving c.requests → P (Client.readMessages fuel c).requests := by
  induction fuel with
  | zero => exact fun h _ => h
  | succ fuel ih =>
    intro c h hs
    rw [Client.readMessages]
    split
    · exact h
    · rename_i msg messages hmessages
      exact ih (hP.message h hs hmessages) (hs.handleMessage hmessages).1

/-- **The rule for socket actions.** -/
theorem socketAction (hP : KeptByCurl P) (h : P c.requests) (hs : Serving c.requests) :
    P c.socketAction.requests := by
  have haction : P c.curlMultiSocketAction.2.requests := hP.progress h c.curlMulti_progress
  have hserving : Serving c.curlMultiSocketAction.2.requests := hs.curl c.curlMulti_progress
  unfold Client.socketAction
  generalize c.curlMultiSocketAction = action at haction hserving
  obtain ⟨_ | _, c₁⟩ := action
  · exact haction
  · exact hP.readMessages _ haction hserving

/-- What curl and the messages keep is kept by the callback of a socket. -/
theorem eventCallback (hP : KeptByCurl P) (h : P c.requests) (hs : Serving c.requests)
    (id : Nat) : P (c.eventCallback id).requests := by
  rcases c.eventCallback_requests id with heq | heq
  · rw [heq]
    exact h
  · rw [heq]
    exact hP.socketAction h hs

/-- And by that of the timer. -/
theorem asioTimerCallback (hP : KeptByCurl P) (h : P c.requests) (hs : Serving c.requests) :
    P c.asioTimerCallback.requests := by
  rw [Client.asioTimerCallback_eq]
  split
  · exact hP.socketAction h hs
  · exact h

end KeptByCurl

/-! ## `do_request()` -/

/-- Call `n` of `do_request()` has been made and not decided. -/
structure Asked (r : Requests H) (n : Nat) (args : RequestArgs H) : Prop where
  recorded : Recorded r (fun m => m ∈ r.handles) n
  calls : r.calls = n + 1
  about : r.about n = [.submitted n args]
  keys : r.connections.keys.Perm r.handles
  pending : r.pending = r.handles.length
  multi : r.multi = false → r.handles = []

/-- A call of `do_request()` has a number of its own. -/
theorem Serving.submit {r : Requests H} (h : Serving r) (args : RequestArgs H) :
    Asked (r.submit args) r.calls args where
  recorded := (h.recorded.submit args).1
  calls := rfl
  about := (h.recorded.submit args).2
  keys := h.keys
  pending := h.pending
  multi := h.multi

namespace Asked

variable {r r' : Requests H} {n : Nat} {args : RequestArgs H}

/-- Curl may run before the call is decided. -/
theorem curl (h : Asked r n args) (hp : Relation.ReflTransGen Requests.Progress r r') :
    Asked r' n args := by
  obtain ⟨hhandles, hpending, hmulti, hcalls, hkeys⟩ := curl_frame hp
  have hnot : n ∉ r.handles := fun hmem => Nat.lt_irrefl n (h.recorded.liveLt n hmem)
  exact {
    recorded := by
      rw [hhandles]
      exact h.recorded.curl hp
    calls := hcalls.trans h.calls
    about := (curl_about hp hnot).trans h.about
    keys := by
      rw [hhandles]
      exact hkeys.trans h.keys
    pending := by rw [hpending, hhandles, h.pending]
    multi := by
      rw [hmulti, hhandles]
      exact h.multi }

/-- A call that is rejected is answered at once. -/
theorem reject (h : Asked r n args) {code : Errc}
    (hcode : code ∈ [Errc.invalidArgument, .operationNotPermitted,
      .resourceUnavailableTryAgain, .ioError]) :
    Serving (r.tell n args.handler (some (.errc code)) {}) where
  recorded := by
    have hrejected := h.recorded.reject h.calls h.about hcode
    rw [← h.calls] at hrejected
    exact hrejected
  keys := h.keys
  pending := h.pending
  multi := h.multi

/-- A call that is accepted has its connection and its handle. -/
theorem accept (h : Asked r n args) (hmulti : r.multi = true) {conn : ConnContext H}
    (hconn : Matches conn args []) : Serving (r.accept n conn) where
  recorded := by
    have haccepted := h.recorded.accept h.calls h.about hconn
    rw [← h.calls] at haccepted
    refine haccepted.congr fun m => ?_
    show m ∈ r.handles ∨ m = n ↔ m ∈ n :: r.handles
    rw [List.mem_cons]
    exact or_comm
  keys := by
    have hnew : n ∉ r.connections.keys := fun hmem =>
      Nat.lt_irrefl n (h.recorded.liveLt n (h.keys.mem_iff.mp hmem))
    show (r.connections.insert n conn).keys.Perm (n :: r.handles)
    rw [AList.keys_insert, List.erase_of_not_mem hnew]
    exact h.keys.cons n
  pending := by
    show r.pending + 1 = (n :: r.handles).length
    rw [h.pending, List.length_cons]
  multi := fun hnone => by
    have hnone : r.multi = false := hnone
    rw [hmulti] at hnone
    cases hnone

end Asked

/-- `start_request()` decides the call. -/
theorem Asked.startRequest {c : Client H} {n : Nat} {args : RequestArgs H}
    (h : Asked c.requests n args) {conn : ConnContext H} (hhandler : conn.handler = args.handler)
    (hbody : conn.responseBody = []) (hheaders : conn.responseHeaders = [])
    (method : HttpMethod) (easyInit : Bool) :
    Serving (c.startRequest n conn method easyInit).requests := by
  have hspec := c.startRequest_spec n conn method easyInit
  generalize c.startRequest n conn method easyInit = c' at hspec
  cases hspec with
  | rejected hcode =>
    rw [Client.answer_requests, hhandler]
    refine h.reject ?_
    simp only [List.mem_cons, List.not_mem_nil, or_false] at hcode ⊢
    tauto
  | failed hadd =>
    rw [Client.answer_requests, hhandler]
    exact (h.curl (Client.curlMultiAddHandle_failed hadd)).reject (by simp)
  | added options hmulti heasy hadd =>
    obtain ⟨r, hprogress, hr⟩ :=
      Client.curlMultiAddHandle_accept { conn with easy := some options } hadd
    have hmulti' : r.multi = true := (curl_frame hprogress).2.2.1.trans hmulti
    have hmatches : Matches { conn with easy := some options } args [] :=
      ⟨hhandler, rfl, hbody, hheaders⟩
    have haccepted := (h.curl hprogress).accept hmulti' hmatches
    rw [← hr] at haccepted
    exact Serving.keptByCurl.socketAction haccepted haccepted

/-- `do_request()` decides its call: one case for each way it can go. -/
theorem Serving.doRequest {c : Client H} (h : Serving c.requests) (args : RequestArgs H)
    (easyInit : Bool) : Serving (c.doRequest args easyInit).requests := by
  have hasked : Asked (Client.requests { c.log (.submitted c.calls args) with
      calls := c.calls + 1 }) c.calls args := h.submit args
  unfold Client.doRequest
  simp only
  split
  · rw [Client.answer_requests]
    exact hasked.reject (by simp)
  · exact hasked.startRequest rfl rfl rfl args.method easyInit

/-! ## `do_cancel()` -/

/-- `do_cancel()` has still to deal with the connections `rest`, which it has moved
out of the map. -/
structure Canceling (outstanding : Map (ConnContext H)) (r : Requests H) (rest : List Nat) :
    Prop where
  recorded : Recorded r (fun n => n ∈ rest) r.calls
  handles : r.handles.Perm rest
  nodup : rest.Nodup
  multi : r.multi = false → rest = []
  moved : r.connections = ∅
  outstanding : ∀ n ∈ rest, ∃ conn args, outstanding.lookup n = some conn ∧
    conn.easy.isSome = true ∧ .submitted n args ∈ r.trace ∧ conn.handler = args.handler

theorem eq_empty_of_keys {β : Type} {m : Map β} (h : m.keys = []) : m = ∅ :=
  AList.ext (List.map_eq_nil_iff.mp h)

/-- What is recorded stays recorded. -/
theorem curl_trace {r r' : Requests H} (hp : Relation.ReflTransGen Requests.Progress r r') :
    ∀ o ∈ r.trace, o ∈ r'.trace := by
  induction hp with
  | refl => exact fun _ => id
  | tail _ hstep ih =>
    intro o ho
    cases hstep with
    | same => exact ih o ho
    | data | done => exact List.mem_append_left _ (ih o ho)

theorem submitted_mem_record {n : Nat} {args args' : RequestArgs H} {data : List Data}
    {done : Option (CURLcode × Nat)} (h : Obs.submitted n args' ∈ record n args data done) :
    args' = args := by
  simpa [record] using h

/-- `do_cancel()` ends the next connection, and the rest is still to come. -/
theorem Canceling.cancelConnection {outstanding : Map (ConnContext H)} {c : Client H} {n : Nat}
    {rest : List Nat} (h : Canceling outstanding c.requests (n :: rest)) :
    ∃ conn, outstanding.lookup n = some conn ∧
      Canceling outstanding (c.cancelConnection n conn).requests rest := by
  obtain ⟨conn, args, hconn, heasy, hsubmitted, hhandler⟩ := h.outstanding n List.mem_cons_self
  refine ⟨conn, hconn, ?_⟩
  obtain ⟨args', data, done, hrunning⟩ := h.recorded.running n List.mem_cons_self
  -- the handler that is called is the one the call was made with
  obtain rfl : args = args' := by
    have habout : Obs.submitted n args ∈ c.requests.about n :=
      List.mem_filter.mpr ⟨hsubmitted, by simp [Obs.isAbout]⟩
    rw [hrunning.record] at habout
    exact submitted_mem_record habout
  have hmulti : c.multi = true := by
    cases hm : c.multi with
    | true => rfl
    | false => cases h.multi hm
  have hhandles : (c.requests.handles.erase n).Perm rest := by
    have := h.handles.erase n
    rwa [List.erase_cons_head] at this
  have hrest : n ∉ rest := (List.nodup_cons.mp h.nodup).1
  obtain ⟨r, hprogress, hr⟩ := Client.cancelConnection_requests (n := n) hmulti heasy
  obtain ⟨hhandles₁, -, hmulti₁, hcalls₁, hkeys₁⟩ := curl_frame hprogress
  have hhandles₁ : r.handles = c.requests.handles.erase n := hhandles₁
  have hcalls₁ : r.calls = c.requests.calls := hcalls₁
  -- a canceled request is answered whatever its transfer had come to
  have hfate : Fate n args (c.requests.about n ++ .ended n :: answers n conn.handler
      (some (.errc .operationCanceled)) {} r.pending) := by
    rw [hrunning.record, hhandler]
    exact .canceled data done _
  have hended := h.recorded.conclude (fun _ _ => id) hprogress List.mem_cons_self
    (h.handles.nodup_iff.mpr h.nodup) hfate
  rw [← hcalls₁] at hended
  rw [hr]
  exact {
    recorded := hended.congr fun m => by
      constructor
      · rintro ⟨hm, hne⟩
        exact (List.mem_cons.mp hm).resolve_left hne
      · intro hm
        exact ⟨List.mem_cons_of_mem _ hm, fun heq => hrest (heq ▸ hm)⟩
    handles := by
      show r.handles.Perm rest
      rw [hhandles₁]
      exact hhandles
    nodup := (List.nodup_cons.mp h.nodup).2
    multi := fun hnone => by
      have hnone : r.multi = false := hnone
      rw [show r.multi = c.multi from hmulti₁, hmulti] at hnone
      cases hnone
    moved := by
      have hempty : c.requests.connections.keys = [] := by
        rw [h.moved]
        rfl
      have hkeys : r.connections.keys.Perm c.requests.connections.keys := hkeys₁
      rw [hempty] at hkeys
      exact eq_empty_of_keys (List.perm_nil.mp hkeys)
    outstanding := fun m hm => by
      obtain ⟨conn', args', hconn', heasy', hsubmitted', hhandler'⟩ :=
        h.outstanding m (List.mem_cons_of_mem _ hm)
      refine ⟨conn', args', hconn', heasy', List.mem_append_left _ ?_, hhandler'⟩
      exact curl_trace hprogress _ hsubmitted' }

/-- `do_cancel()` ends every connection it has moved, in whatever order the map gives
them. -/
theorem Serving.doCancel {c : Client H} (h : Serving c.requests) {order : List Nat}
    (horder : order.Perm c.connections.keys) : Serving (c.doCancel order).requests := by
  have hperm : order.Perm c.requests.handles := horder.trans h.keys
  -- the map is moved out first, so nothing is found in it from here on
  have hstart : Canceling c.connections
      (Client.requests { c with timer := c.timer.cancel, connections := ∅ }) order := {
    recorded := by
      have hremoved : Recorded { c.requests with connections := ∅ }
          (fun n => n ∈ c.requests.handles) c.requests.calls :=
        { h.recorded with
          running := fun n hn => by
            obtain ⟨args, data, done, hrunning⟩ := h.recorded.running n hn
            exact ⟨args, data, done, { hrunning with conn := fun conn hconn => by cases hconn }⟩ }
      exact hremoved.congr fun n => hperm.mem_iff.symm
    handles := hperm.symm
    nodup := hperm.nodup_iff.mpr h.nodup
    multi := fun hnone => List.perm_nil.mp (h.multi hnone ▸ hperm)
    moved := rfl
    outstanding := fun n hn => by
      have hn : n ∈ c.requests.handles := hperm.mem_iff.mp hn
      obtain ⟨conn, hconn⟩ := h.exists_connection hn
      obtain ⟨args, data, done, hrunning⟩ := h.recorded.running n hn
      have hmatches := hrunning.conn conn hconn
      have hsubmitted : Obs.submitted n args ∈ c.requests.about n := by
        rw [hrunning.record]
        simp [record]
      exact ⟨conn, args, hconn, hmatches.easy, List.mem_of_mem_filter hsubmitted,
        hmatches.handler⟩ }
  -- the loop is over the connections that were moved
  have hend : Canceling c.connections (c.cancelConnections order).requests [] :=
    Client.cancelConnections_rule
      (I := fun c' rest => Canceling c.connections c'.requests rest) hstart
      fun _ _ _ h => h.cancelConnection
  have hnone : (c.cancelConnections order).requests.handles = [] :=
    List.perm_nil.mp hend.handles
  rw [Client.doCancel_requests]
  exact {
    recorded := (hend.recorded.setPending 0).congr fun n => by
      show n ∈ [] ↔ n ∈ (c.cancelConnections order).requests.handles
      rw [hnone]
    keys := by
      show (c.cancelConnections order).requests.connections.keys.Perm _
      rw [hend.moved, hnone]
      exact .rfl
    pending := by rw [hnone]; rfl
    multi := fun _ => hnone }

/-! ## The whole system -/

/-- One step preserves `Serving`. -/
theorem Serving.step {c c' : Client H} {e : Event H} (h : Serving c.requests)
    (he : step c e = some c') : Serving c'.requests := by
  cases step_spec he with
  | request args easyInit script hscript =>
    exact Serving.doRequest (c := { c with script := script }) h args easyInit
  | cancel script horder hscript =>
    exact Serving.doCancel (c := { c with script := script }) h horder
  | watch script hdeliver hscript =>
    refine Serving.keptByCurl.eventCallback ?_ ?_ _
    · exact h
    · exact h
  | timer script hwait hdeliver => exact Serving.keptByCurl.asioTimerCallback h h
  | setCaCertificate | watchAborted | timerAborted | ready | tick | expire => exact h

/-- Every request is accounted for between any two callbacks. -/
theorem serving_of_reachable {c : Client H} (hr : Reachable (system H) anyStep c) :
    Serving c.requests := by
  refine hr.invariant (I := fun c => Serving c.requests) ?_ fun c e c' h _ he => h.step he
  rintro c ⟨multi, now, rfl⟩
  exact .init multi now

/-- **Exactly one answer.** For every order of requests, cancellations and curl's
messages:

- a call whose easy handle is not in the multi has its `Fate`: it was rejected,
  or its own transfer's message ended it, or `do_cancel()` did, and its handler,
  if it has one, was called once, then;
- a call whose easy handle is in the multi has not been answered;
- `pending`, the connections and the easy handles in the multi agree;
- `check_multi_info()` has found the connection of every message. -/
theorem every_call_answered {c : Client H} (hr : Reachable (system H) anyStep c) :
    (∀ n < c.calls, n ∉ c.curl.handles → ∃ args, Fate n args (c.requests.about n)) ∧
    (∀ n ∈ c.curl.handles, n < c.calls ∧
      ∃ args data done, c.requests.about n = record n args data done) ∧
    c.pending = c.connections.keys.length ∧ c.connections.keys.Perm c.curl.handles ∧
    .notFound ∉ c.trace := by
  have h := serving_of_reachable hr
  refine ⟨h.recorded.ended, fun n hn => ⟨h.recorded.liveLt n hn, ?_⟩, ?_, h.keys,
    h.recorded.found⟩
  · obtain ⟨args, data, done, hrunning⟩ := h.recorded.running n hn
    exact ⟨args, data, done, hrunning.record⟩
  · have hpending : c.pending = c.curl.handles.length := h.pending
    rw [hpending]
    exact h.keys.length_eq.symm

/-- A `get()` of the root. -/
def getRoot (handler : Nat) : RequestArgs Nat where
  method := .get
  host := "localhost".toList
  port := "443".toList
  target := "/".toList
  body := []
  headers := []
  timeout := 15000
  handler := some handler

/-- Two requests. While the second one is started, the first one's transfer ends;
the second one's message is queued while the first one's handle is removed, is
read in the same loop, and the third request is cancelled. -/
def twoDoneOneCanceled : List (Event Nat) :=
  [.request (getRoot 0) true [{ calls := [.timer 0] }, {}],
    .request (getRoot 1) true [{ calls := [.timer 0] },
      { calls := [.header 0 "HTTP/2 200".toList, .write 0 "ok".toList, .done 0 .ok 200] },
      { calls := [.done 1 .couldntConnect 0] }, {}],
    .request (getRoot 2) true [{ calls := [.timer 0] }, {}],
    .cancel [2] [{}]]

/-- Three requests: two are done, one is cancelled, and each is answered once. -/
theorem every_call_answered_twoDoneOneCanceled :
    ∃ c, run (system Nat) anyStep (Client.create true 0) twoDoneOneCanceled = some c ∧
      ∀ n < 3, ∃ args, Fate n args (c.requests.about n) := by
  have hsome : ((run (system Nat) anyStep (Client.create true 0) twoDoneOneCanceled).map
      fun c => (c.calls, c.curl.handles)) = some (3, []) := by decide
  obtain ⟨c, hrun, hc⟩ := Option.map_eq_some_iff.mp hsome
  simp only [Prod.mk.injEq] at hc
  obtain ⟨hcalls, hhandles⟩ := hc
  have hended := (every_call_answered
    ⟨_, ⟨true, 0, rfl⟩, Path.of_run twoDoneOneCanceled hrun⟩).1
  rw [hcalls, hhandles] at hended
  exact ⟨c, hrun, fun n hn => hended n hn (by simp)⟩

end CppComponents.HttpsMultiplexClient
