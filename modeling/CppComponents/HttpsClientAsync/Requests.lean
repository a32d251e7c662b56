import CppComponents.HttpsClientAsync.Model
import CppComponents.Pending

/-!
# Every request is answered once, with its own result

`Chain` says what a request is: the operations one after the other, each decided
by how the one before it completed, down to an outcome. It knows nothing of the
client. `Fate` says what the trace may record of one call of `do_request()`:
rejected, running, cancelled or finished, with the completions it got and the
one call of its handler.

`Answering` is the invariant: the running request has exactly one operation of
the current generation outstanding, and every call has its fate.
-/

namespace CppComponents.HttpsClientAsync

open CppComponents.Transition

variable {H : Type} {preparePayload : HttpRequest → HttpRequest}

/-! ## A request by itself -/

/-- What the completion of an operation leads to. -/
inductive Next where
  | operation (operation : Operation)
  | outcome (ec : Option AsioError) (response : HttpResponse)
  deriving DecidableEq, Repr

/-- The result of an operation of the request `args`. -/
def Operation.next (preparePayload : HttpRequest → HttpRequest) (args : RequestArgs H)
    (operation : Operation) (completion : Completion) : Next :=
  match completion.ec with
  | some ec => .outcome (some ec) {}
  | none =>
    match operation with
    | .resolve _ _ => .operation (.connect completion.results)
    | .connect _ =>
      match completion.serverName with
      | some ec => .outcome (some ec) {}
      | none =>
        match completion.verifyCallback with
        | some ec => .outcome (some ec) {}
        | none => .operation (.sslHandshake args.host)
    | .sslHandshake _ => .operation (.write (buildRequest preparePayload args))
    | .write _ => .operation .read
    | .read => .outcome none completion.response.toHttpResponse

/-- Where a request is after its operations have completed with `results`. -/
inductive Chain (preparePayload : HttpRequest → HttpRequest) (args : RequestArgs H) :
    List Completion → Next → Prop where
  | start : Chain preparePayload args [] (.operation (.resolve args.host args.port))
  | next {results : List Completion} {operation : Operation} (completion : Completion) :
      Chain preparePayload args results (.operation operation) →
      Chain preparePayload args (results ++ [completion])
        (operation.next preparePayload args completion)

/-! ## What becomes of a call -/

/-- The call of a handler, if it is not null. -/
def answers (n : Nat) (handler : Option H) (ec : Option ErrorCode) (response : HttpResponse)
    (busy : Bool) : List (Obs H) :=
  handler.toList.map fun h => .answered n h ec response busy

/-- The record of call `n` of `do_request()`, with the operation its request is
waiting for while it runs. -/
inductive Fate (preparePayload : HttpRequest → HttpRequest) (n : Nat) (args : RequestArgs H) :
    Option Operation → List (Obs H) → Prop where
  | rejected {state : RequestState} (hbusy : state ≠ .idle) :
      Fate preparePayload n args none (.submitted n args state ::
        answers n args.handler (some (.errc .operationInProgress)) {} true)
  | running {results : List Completion} {operation : Operation}
      (hchain : Chain preparePayload args results (.operation operation)) :
      Fate preparePayload n args (some operation)
        (.submitted n args .idle :: results.map (.completed n))
  | canceled {results : List Completion} {operation : Operation}
      (hchain : Chain preparePayload args results (.operation operation)) :
      Fate preparePayload n args none (.submitted n args .idle :: results.map (.completed n) ++
        .canceled n :: answers n args.handler (some (.errc .operationCanceled)) {} false)
  | finished {results : List Completion} {ec : Option AsioError} {response : HttpResponse}
      (hchain : Chain preparePayload args results (.outcome ec response)) :
      Fate preparePayload n args none (.submitted n args .idle :: results.map (.completed n) ++
        answers n args.handler (AsioError.toErrorCode ec) response false)

/-- The record of a running request is the completions of its operations. -/
theorem Fate.results_of_running {n : Nat} {args : RequestArgs H} {operation : Operation}
    {l : List (Obs H)} (h : Fate preparePayload n args (some operation) l) :
    ∃ results, Chain preparePayload args results (.operation operation) ∧
      l = .submitted n args .idle :: results.map (.completed n) := by
  cases h with
  | running hchain => exact ⟨_, hchain, rfl⟩

/-- The record of call `n`. -/
def Client.about (c : Client H) (n : Nat) : List (Obs H) :=
  c.trace.filter fun o => o.call = n

def Op.ofGeneration (generation : Nat) (op : Op) : Option Operation :=
  if op.generation = generation then some op.operation else none

/-- The outstanding operations of the current generation. -/
def Client.outstanding (c : Client H) : List Operation :=
  c.ops.filterMap (Op.ofGeneration c.requestGeneration)

/-- A step that records only things about call `n`. -/
theorem about_append_self (c : Client H) {c' : Client H} {n : Nat} {l : List (Obs H)}
    (htrace : c'.trace = c.trace ++ l) (h : ∀ o ∈ l, o.call = n) :
    c'.about n = c.about n ++ l := by
  have hl : l.filter (fun o => o.call = n) = l :=
    List.filter_eq_self.mpr fun o ho => by simpa using h o ho
  rw [Client.about, htrace, List.filter_append, hl]
  rfl

theorem about_append_other (c : Client H) {c' : Client H} {n m : Nat} {l : List (Obs H)}
    (htrace : c'.trace = c.trace ++ l) (h : ∀ o ∈ l, o.call = m) (hne : n ≠ m) :
    c'.about n = c.about n := by
  have hl : l.filter (fun o => o.call = n) = [] :=
    List.filter_eq_nil_iff.mpr fun o ho => by
      have := h o ho
      simp only [decide_eq_true_eq]
      omega
  rw [Client.about, htrace, List.filter_append, hl, List.append_nil]
  rfl

theorem about_fresh {c : Client H} {n : Nat} (h : ∀ o ∈ c.trace, o.call < n) :
    c.about n = [] :=
  List.filter_eq_nil_iff.mpr fun o ho => by
    have := h o ho
    simp only [decide_eq_true_eq]
    omega

theorem call_of_mem_answers {n : Nat} {handler : Option H} {ec : Option ErrorCode}
    {response : HttpResponse} {busy : Bool} {o : Obs H}
    (h : o ∈ answers n handler ec response busy) : o.call = n := by
  obtain ⟨a, -, rfl⟩ := List.mem_map.mp h
  rfl

/-! ## What the functions do -/

namespace Client

variable {c : Client H}

theorem answer_eq (c : Client H) (n : Nat) (handler : Option H) (ec : Option ErrorCode)
    (response : HttpResponse) :
    c.answer n handler ec response =
      { c with trace := c.trace ++ answers n handler ec response c.isBusy } := by
  cases handler <;> simp [answer, answers, log]

theorem completeRequest_eq (c : Client H) (ec : Option ErrorCode) (response : HttpResponse) :
    c.completeRequest ec response = { c with
      responseHandler := none
      host := ""
      timeout := 0
      httpRequest := {}
      assigned := { c.assigned with
        httpRequest := c.assigned.httpRequest + 1
        httpResponse := c.assigned.httpResponse + 1 }
      state := .idle
      trace := c.trace ++ answers c.current c.responseHandler ec response false } := by
  rw [completeRequest, answer_eq]
  rfl

theorem applyTimeout_failRequest (c : Client H) (ec : AsioError) :
    c.applyTimeout.failRequest ec = c.failRequest ec := by
  unfold applyTimeout
  split
  · rfl
  · split <;> rfl

/-- `apply_timeout()` changes the stream's timeout only. -/
theorem applyTimeout_frame (c : Client H) :
    ∃ stream, c.applyTimeout = { c with stream := stream } ∧
      stream.map (·.id) = c.stream.map (·.id) := by
  unfold applyTimeout
  split
  · rename_i hstream
    exact ⟨none, by rw [← hstream], by rw [hstream]⟩
  · rename_i stream hstream
    split
    · exact ⟨c.stream, rfl, rfl⟩
    · exact ⟨_, rfl, by rw [hstream]; rfl⟩

theorem ifCurrent_stale {generation : Nat} (h : c.isCurrentRequest generation = false)
    (completion : Completion) (k : Client H → Client H) :
    c.ifCurrent generation completion k = c := by
  unfold ifCurrent
  split
  · rfl
  · rw [h]
    rfl

theorem ifCurrent_current {generation : Nat} (h : c.isCurrentRequest generation = true)
    (hstream : c.stream ≠ none) (completion : Completion) (k : Client H → Client H) :
    c.ifCurrent generation completion k = k (c.log (.completed c.current completion)) := by
  unfold ifCurrent
  split
  · contradiction
  · rw [h]
    rfl

/-- A call while a request runs: only its own handler hears of it. -/
theorem doRequest_busy (hstate : c.state ≠ .idle) (args : RequestArgs H) :
    c.doRequest preparePayload args = { c with
      calls := c.calls + 1
      trace := c.trace ++ .submitted c.calls args c.state ::
        answers c.calls args.handler (some (.errc .operationInProgress)) {} true } := by
  have hbusy : c.isBusy = true := by simp [isBusy, hstate]
  have hstate' : ({ c.log (.submitted c.calls args c.state) with calls := c.calls + 1 } :
      Client H).state ≠ .idle := hstate
  unfold doRequest
  rw [if_pos hstate', answer_eq]
  show Client.mk .. = Client.mk ..
  simp only [log, List.append_assoc, List.singleton_append]
  rw [← hbusy]
  rfl

theorem doRequest_idle (hstate : c.state = .idle) (args : RequestArgs H) :
    c.doRequest preparePayload args = { c with
      stream := some ⟨c.streams, none⟩
      httpRequest := buildRequest preparePayload args
      responseHandler := args.handler
      host := args.host
      timeout := args.timeout
      state := .inProgress
      requestGeneration := c.requestGeneration + 1
      streams := c.streams + 1
      assigned := ⟨c.assigned.httpRequest + 1, c.assigned.httpResponse + 1,
        c.assigned.readBuffer + 1⟩
      ops := c.ops ++ [⟨c.requestGeneration + 1, .resolve args.host args.port, some c.streams,
        ⟨c.assigned.httpRequest + 1, c.assigned.httpResponse + 1,
          c.assigned.readBuffer + 1⟩⟩]
      calls := c.calls + 1
      current := c.calls
      trace := c.trace ++ [.submitted c.calls args .idle] } := by
  have hstate' : ¬ ({ c.log (.submitted c.calls args c.state) with calls := c.calls + 1 } :
      Client H).state ≠ .idle := not_not_intro hstate
  unfold doRequest
  rw [if_neg hstate', ← hstate]
  rfl

theorem doCancel_inProgress (hstate : c.state = .inProgress) :
    c.doCancel = { c with
      stream := none
      httpRequest := {}
      responseHandler := none
      host := ""
      timeout := 0
      state := .idle
      requestGeneration := c.requestGeneration + 1
      assigned := { c.assigned with
        httpRequest := c.assigned.httpRequest + 1
        httpResponse := c.assigned.httpResponse + 1 }
      trace := c.trace ++ .canceled c.current ::
        answers c.current c.responseHandler (some (.errc .operationCanceled)) {} false } := by
  unfold doCancel
  rw [if_neg (by simp [hstate]), completeRequest_eq]
  simp [destroyStream, log, setState]

/-- `do_cancel()` without a request in progress changes nothing. -/
theorem doCancel_of_ne (hstate : c.state ≠ .inProgress) : c.doCancel = c := by
  have hidle : c.state = .idle ∨ c.state = .cancelling := by
    cases hs : c.state with
    | idle => exact .inl rfl
    | inProgress => exact absurd hs hstate
    | cancelling => exact .inr rfl
  rw [doCancel, if_pos hidle]

/-- A late completion changes nothing. -/
theorem handle_stale {op : Op} (h : c.isCurrentRequest op.generation = false)
    (completion : Completion) : c.handle op completion = c := by
  unfold handle
  split <;> exact ifCurrent_stale h completion _

/-- A completion of the running request takes the request to its next operation
or to its outcome. -/
theorem handle_current {args : RequestArgs H} {op : Op}
    (h : c.isCurrentRequest op.generation = true) (hstream : c.stream ≠ none)
    (hhost : c.host = args.host) (hrequest : c.httpRequest = buildRequest preparePayload args)
    (completion : Completion) :
    c.handle op completion =
      match op.operation.next preparePayload args completion with
      | .operation next =>
        (c.log (.completed c.current completion)).applyTimeout.start op.generation next
      | .outcome ec response =>
        (c.log (.completed c.current completion)).destroyStream.completeRequest
          (AsioError.toErrorCode ec) response := by
  have hframe : ∀ c : Client H, c.applyTimeout.host = c.host ∧
      c.applyTimeout.httpRequest = c.httpRequest := by
    intro c
    obtain ⟨stream, heq, -⟩ := c.applyTimeout_frame
    rw [heq]
    exact ⟨rfl, rfl⟩
  obtain ⟨hhost', hrequest'⟩ := hframe (c.log (.completed c.current completion))
  -- `apply_timeout()` leaves alone what the next operation is made of
  unfold handle Operation.next
  cases hop : op.operation with
  | resolve host port =>
    simp only [handleResolve, ifCurrent_current h hstream]
    cases completion.ec <;> rfl
  -- the timeout is set before the set-up calls that may fail
  | connect results =>
    simp only [handleConnect, ifCurrent_current h hstream, applyTimeout_failRequest]
    cases completion.ec with
    | some ec => rfl
    | none =>
      cases completion.serverName with
      | some ec => rfl
      | none =>
        cases completion.verifyCallback with
        | some ec => rfl
        | none =>
          show Client.start _ _ (.sslHandshake (applyTimeout _).host) = _
          rw [hhost', show (c.log (.completed c.current completion)).host = c.host from rfl,
            hhost]
  | sslHandshake serverName =>
    simp only [handleSslHandshake, ifCurrent_current h hstream]
    cases completion.ec with
    | some ec => rfl
    | none =>
      show Client.start _ _ (.write (applyTimeout _).httpRequest) = _
      rw [hrequest',
        show (c.log (.completed c.current completion)).httpRequest = c.httpRequest from rfl,
        hrequest]
  | write request =>
    simp only [handleWrite, ifCurrent_current h hstream]
    cases completion.ec <;> rfl
  | read =>
    simp only [handleRead, ifCurrent_current h hstream]
    cases completion.ec <;> rfl

end Client

/-! ## The invariant -/

/-- What the client holds while the request `args` runs. -/
structure Client.Serves (preparePayload : HttpRequest → HttpRequest) (c : Client H)
    (args : RequestArgs H) (operation : Operation) : Prop where
  stream : c.stream ≠ none
  outstanding : c.outstanding = [operation]
  host : c.host = args.host
  request : c.httpRequest = buildRequest preparePayload args
  handler : c.responseHandler = args.handler
  fate : Fate preparePayload c.current args (some operation) (c.about c.current)

/-- What holds between any two callbacks of the executor. -/
structure Answering (preparePayload : HttpRequest → HttpRequest) (c : Client H) : Prop where
  settled : c.state ≠ .cancelling
  generations : ∀ op ∈ c.ops, op.generation ≤ c.requestGeneration
  calls : ∀ o ∈ c.trace, o.call < c.calls
  current : c.state = .inProgress → c.current < c.calls
  running : c.state = .inProgress → ∃ args operation, c.Serves preparePayload args operation
  ended : ∀ n < c.calls, (c.state = .inProgress → n ≠ c.current) →
    ∃ args, Fate preparePayload n args none (c.about n)

namespace Answering

variable {c c' : Client H}

theorem init : Answering preparePayload (Client.create : Client H) where
  settled := by simp [Client.create]
  generations := fun op hop => by simp [Client.create] at hop
  calls := fun o ho => by simp [Client.create] at ho
  current := fun hstate => by simp [Client.create] at hstate
  running := fun hstate => by simp [Client.create] at hstate
  ended := fun n hn => by simp [Client.create] at hn

/-- The running request ends. -/
theorem endRequest (h : Answering preparePayload c) (args : RequestArgs H) {l : List (Obs H)}
    (hin : c.state = .inProgress) (hidle : c'.state = .idle)
    (hops : ∀ op ∈ c'.ops, op ∈ c.ops) (hgeneration : c.requestGeneration ≤ c'.requestGeneration)
    (hcalls : c'.calls = c.calls) (htrace : c'.trace = c.trace ++ l)
    (hl : ∀ o ∈ l, o.call = c.current)
    (hfate : Fate preparePayload c.current args none (c.about c.current ++ l)) :
    Answering preparePayload c' where
  settled := by simp [hidle]
  generations := fun op hop => Nat.le_trans (h.generations op (hops op hop)) hgeneration
  calls := fun o ho => by
    rw [htrace] at ho
    rw [hcalls]
    rcases List.mem_append.mp ho with ho | ho
    · exact h.calls o ho
    · rw [hl o ho]
      exact h.current hin
  current := fun hstate => by simp [hidle] at hstate
  running := fun hstate => by simp [hidle] at hstate
  ended := fun n hn _ => by
    rw [hcalls] at hn
    by_cases hcurrent : n = c.current
    · rw [hcurrent, about_append_self c htrace hl]
      exact ⟨args, hfate⟩
    · rw [about_append_other c htrace hl hcurrent]
      exact h.ended n hn fun _ => hcurrent

/-! ### `do_request()` and `do_cancel()` -/

theorem doRequest (h : Answering preparePayload c) (args : RequestArgs H) :
    Answering preparePayload (c.doRequest preparePayload args) := by
  have hnew : c.about c.calls = [] := about_fresh h.calls
  by_cases hstate : c.state = .idle
  · rw [Client.doRequest_idle hstate]
    have htrace : ∀ o ∈ [Obs.submitted c.calls args .idle], o.call = c.calls :=
      List.forall_mem_singleton.mpr rfl
    exact {
      settled := by simp
      generations := fun op hop => by
        rcases List.mem_append.mp hop with hop | hop
        · exact Nat.le_succ_of_le (h.generations op hop)
        · obtain rfl := List.mem_singleton.mp hop
          exact Nat.le_refl _
      calls := fun o ho => by
        rcases List.mem_append.mp ho with ho | ho
        · exact Nat.lt_succ_of_lt (h.calls o ho)
        · rw [htrace o ho]
          exact Nat.lt_succ_self _
      current := fun _ => Nat.lt_succ_self _
      running := fun _ => ⟨args, .resolve args.host args.port, {
        stream := by simp
        outstanding := by
          -- the operations that are left are those of earlier generations
          have hold : c.ops.filterMap (Op.ofGeneration (c.requestGeneration + 1)) = [] :=
            List.filterMap_eq_nil_iff.mpr fun op hop => by
              have := h.generations op hop
              exact if_neg (by omega)
          simp [Client.outstanding, List.filterMap_append, hold, Op.ofGeneration]
        host := rfl
        request := rfl
        handler := rfl
        fate := by
          rw [about_append_self c rfl htrace, hnew]
          exact .running .start }⟩
      ended := fun n hn hcurrent => by
        have hne : n ≠ c.calls := hcurrent rfl
        rw [about_append_other c rfl htrace hne]
        have hn : n < c.calls + 1 := hn
        exact h.ended n (by omega) fun hin => by simp [hstate] at hin }
  · rw [Client.doRequest_busy hstate]
    have htrace : ∀ o ∈ Obs.submitted c.calls args c.state ::
        answers c.calls args.handler (some (.errc .operationInProgress)) {} true,
        o.call = c.calls :=
      List.forall_mem_cons.mpr ⟨rfl, fun _ => call_of_mem_answers⟩
    exact {
      settled := h.settled
      generations := h.generations
      calls := fun o ho => by
        rcases List.mem_append.mp ho with ho | ho
        · exact Nat.lt_succ_of_lt (h.calls o ho)
        · rw [htrace o ho]
          exact Nat.lt_succ_self _
      current := fun hin => Nat.lt_succ_of_lt (h.current hin)
      running := fun hin => by
        obtain ⟨args', operation, hserves⟩ := h.running hin
        refine ⟨args', operation, { hserves with fate := ?_ }⟩
        rw [about_append_other c rfl htrace (Nat.ne_of_lt (h.current hin))]
        exact hserves.fate
      ended := fun n hn hcurrent => by
        have hn : n < c.calls + 1 := hn
        by_cases hlast : n = c.calls
        · rw [hlast, about_append_self c rfl htrace, hnew]
          exact ⟨args, .rejected hstate⟩
        · rw [about_append_other c rfl htrace hlast]
          exact h.ended n (by omega) hcurrent }

theorem doCancel (h : Answering preparePayload c) :
    Answering preparePayload c.doCancel := by
  by_cases hin : c.state = .inProgress
  · obtain ⟨args, operation, hserves⟩ := h.running hin
    rw [Client.doCancel_inProgress hin]
    refine h.endRequest args hin rfl (fun _ => id) (Nat.le_succ _) rfl rfl ?_ ?_
    · exact List.forall_mem_cons.mpr ⟨rfl, fun _ => call_of_mem_answers⟩
    · obtain ⟨results, hchain, hresults⟩ := hserves.fate.results_of_running
      rw [hresults, hserves.handler]
      exact .canceled hchain
  · rw [Client.doCancel_of_ne hin]
    exact h

/-! ### Completions -/

/-- An operation completes, and its handler does nothing. -/
theorem erase (h : Answering preparePayload c) {op : Op}
    (hstale : c.isCurrentRequest op.generation = false) :
    Answering preparePayload { c with ops := c.ops.erase op } :=
  { h with
    generations := fun o ho => h.generations o (List.mem_of_mem_erase ho)
    running := fun hin => by
      obtain ⟨args, operation, hserves⟩ := h.running hin
      have hin : c.state = .inProgress := hin
      have hother : op.generation ≠ c.requestGeneration := by
        intro heq
        simp [Client.isCurrentRequest, hin, heq] at hstale
      have hnone : op.ofGeneration c.requestGeneration = none := if_neg hother
      refine ⟨args, operation, { hserves with outstanding := ?_ }⟩
      rw [← hserves.outstanding]
      exact Pending.filterMap_erase_of_none hnone c.ops }

/-- The running request starts its next operation. -/
theorem startNext (h : Answering preparePayload c) {args : RequestArgs H}
    {operation next : Operation} {ops : List Op} {stream : Option SslStream}
    {completion : Completion} (hin : c.state = .inProgress)
    (hserves : c.Serves preparePayload args operation) (hops : ∀ op ∈ ops, op ∈ c.ops)
    (hnone : ops.filterMap (Op.ofGeneration c.requestGeneration) = []) (hstream : stream ≠ none)
    (hfate : Fate preparePayload c.current args (some next)
      (c.about c.current ++ [.completed c.current completion])) :
    Answering preparePayload { c with
      stream := stream
      ops := ops ++ [⟨c.requestGeneration, next, stream.map (·.id), c.assigned⟩]
      trace := c.trace ++ [.completed c.current completion] } := by
  have htrace : ∀ o : Obs H, o ∈ [.completed c.current completion] → o.call = c.current :=
    List.forall_mem_singleton.mpr rfl
  -- every other call keeps its record, and the running one gets the completion
  exact {
    settled := h.settled
    generations := fun o ho => by
      rcases List.mem_append.mp ho with ho | ho
      · exact h.generations o (hops o ho)
      · obtain rfl := List.mem_singleton.mp ho
        exact Nat.le_refl _
    calls := fun o ho => by
      rcases List.mem_append.mp ho with ho | ho
      · exact h.calls o ho
      · rw [htrace o ho]
        exact h.current hin
    current := h.current
    running := fun _ => ⟨args, next, { hserves with
      stream := hstream
      outstanding := by
        simp [Client.outstanding, List.filterMap_append, hnone, Op.ofGeneration]
      fate := by
        rw [about_append_self c rfl htrace]
        exact hfate }⟩
    ended := fun n hn hcurrent => by
      rw [about_append_other c rfl htrace (hcurrent hin)]
      exact h.ended n hn fun _ => hcurrent hin }

/-- An operation of the running request completes. -/
theorem advance (h : Answering preparePayload c) {op : Op} (hop : op ∈ c.ops)
    (hcurrent : c.isCurrentRequest op.generation = true) (completion : Completion) :
    Answering preparePayload ({ c with ops := c.ops.erase op }.handle op completion) := by
  obtain ⟨hin, hgeneration⟩ : c.state = .inProgress ∧ op.generation = c.requestGeneration := by
    simpa [Client.isCurrentRequest] using hcurrent
  obtain ⟨args, operation, hserves⟩ := h.running hin
  have hselected : op.ofGeneration c.requestGeneration = some op.operation := if_pos hgeneration
  -- one operation of the running request is outstanding, so it is the one that completes
  obtain rfl : op.operation = operation := by
    have hmem : op.operation ∈ c.outstanding := List.mem_filterMap.mpr ⟨op, hop, hselected⟩
    rw [hserves.outstanding] at hmem
    exact List.mem_singleton.mp hmem
  have hnone : Client.outstanding { c with ops := c.ops.erase op } = [] :=
    Pending.filterMap_erase_of_singleton hop hselected hserves.outstanding
  obtain ⟨results, hchain, hresults⟩ := hserves.fate.results_of_running
  have hnext := hchain.next completion
  rw [Client.handle_current (c := { c with ops := c.ops.erase op }) hcurrent hserves.stream
    hserves.host hserves.request completion]
  -- the chain either goes on or ends the request
  cases hstep : op.operation.next preparePayload args completion with
  | operation next =>
    rw [hstep] at hnext
    obtain ⟨stream, hframe, hid⟩ := Client.applyTimeout_frame
      ({ c with ops := c.ops.erase op }.log (.completed c.current completion))
    rw [hframe]
    have hsome : stream ≠ none := by
      rintro rfl
      exact hserves.stream (Option.map_eq_none_iff.mp hid.symm)
    have hrunning := Fate.running (n := c.current) hnext
    rw [List.map_append, ← List.cons_append, ← hresults] at hrunning
    rw [hgeneration]
    exact h.startNext hin hserves (fun o ho => List.mem_of_mem_erase ho) hnone hsome hrunning
  | outcome ec response =>
    rw [hstep] at hnext
    simp only [Client.completeRequest_eq]
    refine h.endRequest args hin rfl (fun o ho => List.mem_of_mem_erase ho) (Nat.le_refl _) rfl
      (l := .completed c.current completion ::
        answers c.current c.responseHandler (AsioError.toErrorCode ec) response false) ?_ ?_ ?_
    · simp [Client.log, Client.destroyStream]
    · exact List.forall_mem_cons.mpr ⟨rfl, fun _ => call_of_mem_answers⟩
    · rw [hresults, hserves.handler]
      have hfinished := Fate.finished (n := c.current) hnext
      simpa using hfinished

end Answering

/-! ## The whole system -/

/-- One step preserves `Answering`. -/
theorem Answering.step {c c' : Client H} {e : Event H} (h : Answering preparePayload c)
    (he : step preparePayload c e = some c') : Answering preparePayload c' := by
  cases e with
  | request args =>
    obtain rfl : c.doRequest preparePayload args = c' := Option.some.inj he
    exact h.doRequest args
  | cancel =>
    obtain rfl : c.doCancel = c' := Option.some.inj he
    exact h.doCancel
  | complete op completion =>
    simp only [HttpsClientAsync.step] at he
    split at he
    · rename_i hop
      cases he
      by_cases hcurrent : c.isCurrentRequest op.generation = true
      · exact h.advance hop hcurrent completion
      · have hstale : c.isCurrentRequest op.generation = false := by simpa using hcurrent
        rw [Client.handle_stale (c := { c with ops := c.ops.erase op }) hstale]
        exact h.erase hstale
    · cases he

theorem answering_of_reachable {c : Client H}
    (hr : Reachable (system H preparePayload) anyStep c) : Answering preparePayload c := by
  refine hr.invariant (I := Answering preparePayload) ?_ fun c e c' h _ he => h.step he
  rintro c rfl
  exact .init

/-- A `get()` of the root, without a body. -/
def getRoot (handler : Nat) : RequestArgs Nat where
  method := .get
  host := "localhost"
  port := "443"
  target := "/"
  body := ""
  headers := []
  timeout := 30000
  handler := some handler

/-- A request that is cancelled while it connects, a second one rejected in
between, and a third one that fails; the first one's late completion comes in
while the third one resolves. -/
def cancelAndRetry : List (Event Nat) :=
  [.request (getRoot 0), .request (getRoot 1),
    .complete ⟨1, .resolve "localhost" "443", some 0, ⟨1, 1, 1⟩⟩ { results := [7] },
    .cancel, .request (getRoot 2),
    .complete ⟨1, .connect [7], some 0, ⟨1, 1, 1⟩⟩ { ec := some .operationAborted },
    .complete ⟨3, .resolve "localhost" "443", some 1, ⟨3, 3, 2⟩⟩ { ec := some (.other 1) }]

end CppComponents.HttpsClientAsync
