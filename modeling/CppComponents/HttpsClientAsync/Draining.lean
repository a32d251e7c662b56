import CppComponents.HttpsClientAsync.Deadlines

/-!
# What is left of the requests

The completion handlers hold the client, and a graceful `stop()` of the executor lets it
run until no operation is outstanding. So an application gets its client and its executor
back if what is left to complete runs out. It does: a request starts five operations at
most, one after the other, and one that was cancelled starts none.

`left` counts the completions there are still to come if nothing more is requested: those
of the outstanding operations, and those of the operations that the running request may
still start.
-/

namespace CppComponents.HttpsClientAsync

open CppComponents.Transition

variable {H : Type} {preparePayload : HttpRequest → HttpRequest}

/-- The operations the request may still start after the one it waits for. -/
def Running.toStart (r : Running) : Nat :=
  (r.outstanding.head?.map fun operation => 4 - operation.stage).getD 0

namespace Client

/-- The operations the running request may still start, if there is one. -/
def toStart (c : Client H) : Nat := (c.running.map Running.toStart).getD 0

/-- The completions there are still to come. -/
def left (c : Client H) : Nat := c.ops.length + c.toStart

variable {c c' : Client H}

theorem toStart_of_running {r : Running} (h : c.running = some r) : c.toStart = r.toStart := by
  rw [toStart, h]
  rfl

theorem toStart_of_none (h : c.running = none) : c.toStart = 0 := by
  rw [toStart, h]
  rfl

theorem toStart_congr (h : c'.running = c.running) : c'.toStart = c.toStart := by
  rw [toStart, h, toStart]

/-- What was started is left to complete, and nothing more is started. -/
theorem left_doCancel (c : Client H) : c.doCancel.left ≤ c.left := by
  by_cases hin : c.state = .inProgress
  · have hnone : c.doCancel.running = none := by
      rw [doCancel_inProgress hin]
      exact running_eq_none fun heq => by cases heq
    have hops : c.doCancel.ops = c.ops := by rw [doCancel_inProgress hin]
    rw [left, hops, toStart_of_none hnone, left]
    omega
  · exact Nat.le_of_eq (congrArg left (doCancel_of_ne hin))

end Client

namespace Answering

variable {c c' : Client H}

/-- The running request waits for one operation. -/
theorem exists_waiting (h : Answering preparePayload c) {r : Running} (hr : c.running = some r) :
    ∃ operation, r.outstanding = [operation] := by
  obtain ⟨hin, rfl⟩ := Client.eq_of_running hr
  obtain ⟨args, operation, hserves⟩ := h.running hin
  exact ⟨operation, hserves.outstanding⟩

theorem toStart_le (h : Answering preparePayload c) : c.toStart ≤ 4 := by
  cases hr : c.running with
  | none => simp [Client.toStart_of_none hr]
  | some r =>
    obtain ⟨operation, hwaits⟩ := h.exists_waiting hr
    simp [Client.toStart_of_running hr, Running.toStart, hwaits]

/-- A running request has an operation outstanding. -/
theorem ops_ne_nil (h : Answering preparePayload c) (hstate : c.state ≠ .idle) : c.ops ≠ [] := by
  intro hnil
  have hin : c.state = .inProgress := by
    cases hcase : c.state with
    | idle => exact absurd hcase hstate
    | inProgress => rfl
    | cancelling => exact absurd hcase h.settled
  obtain ⟨args, operation, hserves⟩ := h.running hin
  have houtstanding := hserves.outstanding
  rw [Client.outstanding, hnil] at houtstanding
  cases houtstanding

/-- A completion handler starts one operation, of the running request, or none. -/
theorem ops_handle (h : Answering preparePayload c) (op : Op) (ops : List Op)
    (completion : Completion) :
    ({ c with ops := ops }.handle op completion).ops = ops ∨
    c.isCurrentRequest op.generation = true ∧
      ({ c with ops := ops }.handle op completion).state = .inProgress ∧
      ∃ op', ({ c with ops := ops }.handle op completion).ops = ops ++ [op'] := by
  by_cases hcurrent : c.isCurrentRequest op.generation = true
  · have hin : c.state = .inProgress := by
      simp only [Client.isCurrentRequest, Bool.and_eq_true, decide_eq_true_eq] at hcurrent
      exact hcurrent.1
    obtain ⟨args, operation, hserves⟩ := h.running hin
    rw [Client.handle_current (c := { c with ops := ops }) hcurrent hserves.stream hserves.host
      hserves.request completion]
    cases op.operation.next preparePayload args completion with
    | outcome ec response =>
      simp only [Client.completeRequest_eq]
      exact .inl rfl
    | operation next =>
      obtain ⟨stream, hframe, -⟩ := Client.applyTimeout_frame
        ({ c with ops := ops }.log (.completed c.current completion))
      rw [hframe]
      exact .inr ⟨hcurrent, hin, _, rfl⟩
  · have hstale : c.isCurrentRequest op.generation = false := by simpa using hcurrent
    rw [Client.handle_stale (c := { c with ops := ops }) hstale]
    exact .inl rfl

/-- A request that is accepted takes five operations at most. -/
theorem left_doRequest (h : Answering preparePayload c) (hstate : c.state = .idle)
    (args : RequestArgs H) : (c.doRequest preparePayload args).left ≤ c.left + 5 := by
  have hlength : (c.doRequest preparePayload args).ops.length = c.ops.length + 1 := by
    rw [Client.doRequest_idle hstate]
    exact List.length_append
  have hle := (h.doRequest args).toStart_le
  rw [Client.left, hlength, Client.left]
  omega

/-- With a completion there is one less to come, at least. -/
theorem left_complete (h : Answering preparePayload c) {op : Op} (hop : op ∈ c.ops)
    (completion : Completion) :
    ({ c with ops := c.ops.erase op }.handle op completion).left + 1 ≤ c.left := by
  have hlength : (c.ops.erase op).length + 1 = c.ops.length := by
    have hpos := List.length_pos_of_mem hop
    rw [List.length_erase_of_mem hop]
    omega
  have hops := h.ops_handle op (c.ops.erase op) completion
  have hspec := h.complete_spec hop completion
  generalize ({ c with ops := c.ops.erase op } : Client H).handle op completion = c'
    at hops hspec
  cases hspec with
  | unaffected hlate hrunning =>
    rcases hops with hsame | ⟨hcurrent, -⟩
    · rw [Client.left, hsame, Client.toStart_congr hrunning, Client.left]
      omega
    · rw [hlate op completion rfl] at hcurrent
      cases hcurrent
  | ended hrunning =>
    rcases hops with hsame | ⟨-, hin, -⟩
    · rw [Client.left, hsame, Client.toStart_of_none hrunning, Client.left]
      omega
    · rw [Client.running_eq hin] at hrunning
      cases hrunning
  | @next _ _ _ r next _ hfrom hwaits hstage hrunning =>
    -- an operation takes the place of the one that completed, and its request has one
    -- less to start
    have hle : c'.ops.length ≤ c.ops.length := by
      rcases hops with hsame | ⟨-, -, op', hadded⟩
      · rw [hsame]
        omega
      · rw [hadded, List.length_append, List.length_singleton]
        omega
    have hbefore : c.toStart = 4 - op.operation.stage := by
      rw [Client.toStart_of_running hfrom, Running.toStart, hwaits]
      rfl
    have hafter : c'.toStart = 4 - next.stage := by
      rw [Client.toStart_of_running hrunning]
      rfl
    have hlast := next.stage_le
    rw [Client.left, Client.left, hbefore, hafter]
    omega

end Answering

/-! ## Counting -/

/-- How many completion handlers have run, and how many requests have been accepted. -/
structure Count where
  completed : Nat := 0
  accepted : Nat := 0

def Count.next (n : Count) (c : Client H) : Event H → Client H → Count
  | .request _, _ => if c.state = .idle then { n with accepted := n.accepted + 1 } else n
  | .cancel, _ => n
  | .complete _ _, _ => { n with completed := n.completed + 1 }

/-- The client with what is counted of its run. -/
def countingSystem (H : Type) (preparePayload : HttpRequest → HttpRequest) :
    System (Client H × Count) (Event H) :=
  (system H preparePayload).record {} Count.next

/-- **The step rule.** A request that is accepted adds five completions, a completion
takes one away, and nothing else adds any. -/
theorem Answering.left_step {c c' : Client H} (h : Answering preparePayload c) {e : Event H}
    (he : HttpsClientAsync.step preparePayload c e = some c') (n : Count) :
    c'.left + (n.next c e c').completed + 5 * n.accepted ≤
      c.left + n.completed + 5 * (n.next c e c').accepted := by
  cases e with
  | request args =>
    cases he
    by_cases hstate : c.state = .idle
    · have hadded := h.left_doRequest hstate args
      rw [Count.next, if_pos hstate]
      show _ + n.completed + _ ≤ _ + n.completed + 5 * (n.accepted + 1)
      omega
    · rw [Count.next, if_neg hstate, Client.doRequest_busy hstate]
      exact Nat.le_refl _
  | cancel =>
    cases he
    have hle := c.left_doCancel
    show _ + n.completed + _ ≤ _ + n.completed + 5 * n.accepted
    omega
  | complete op completion =>
    rw [HttpsClientAsync.step] at he
    split at he
    case isTrue hop =>
      cases he
      have hone := h.left_complete hop completion
      show _ + (n.completed + 1) + _ ≤ _ + n.completed + 5 * n.accepted
      omega
    case isFalse => cases he

/-- **The run rule.** What the steps of a run add and take away adds up. -/
theorem Answering.left_of_path {c c' : Client H} (h : Answering preparePayload c) {n n' : Count}
    (hrun : Path (countingSystem H preparePayload) anyStep (c, n) (c', n')) :
    c'.left + n'.completed + 5 * n.accepted ≤ c.left + n.completed + 5 * n'.accepted := by
  refine (hrun.invariant (I := fun p => Answering preparePayload p.1 ∧
    p.1.left + p.2.completed + 5 * n.accepted ≤ c.left + n.completed + 5 * p.2.accepted) ?_
    ⟨h, Nat.le_refl _⟩).2
  rintro ⟨c₁, m⟩ e ⟨c₂, m'⟩ ⟨h₁, hleft⟩ - hstep
  obtain ⟨hc₂, rfl⟩ := System.record_eq_some hstep
  have h₁ : Answering preparePayload c₁ := h₁
  have hone := h₁.left_step hc₂ m
  refine ⟨h₁.step hc₂, ?_⟩
  have hleft : c₁.left + m.completed + 5 * n.accepted ≤
      c.left + n.completed + 5 * m.accepted := hleft
  show c₂.left + (m.next c₁ e c₂).completed + 5 * n.accepted ≤
    c.left + n.completed + 5 * (m.next c₁ e c₂).accepted
  omega

/-- **What is left runs out.** In every reachable state:

- a client that is busy has an operation outstanding, so a graceful `stop()` waits for it;
- without an outstanding operation the client is idle, every call of `do_request()` has
  been answered, and `do_cancel()`, which the destructor calls, does nothing;
- an outstanding operation can complete with anything;
- whatever is called from here on and however operations complete, at most `left` more
  completion handlers run, and five more for every request that is accepted, where
  `left` is at most four more than the outstanding operations. -/
theorem requests_drain {c : Client H} (hr : Reachable (system H preparePayload) anyStep c) :
    (c.state ≠ .idle → c.ops ≠ []) ∧
    (c.ops = [] → c.state = .idle ∧ c.doCancel = c ∧
      ∀ n < c.calls, ∃ args, Fate preparePayload n args none (c.about n)) ∧
    (∀ op ∈ c.ops, ∀ completion,
      ∃ c', step preparePayload c (.complete op completion) = some c') ∧
    c.left ≤ c.ops.length + 4 ∧
    ∀ c' n, Path (countingSystem H preparePayload) anyStep (c, {}) (c', n) →
      c'.left + n.completed ≤ c.left + 5 * n.accepted := by
  have h := answering_of_reachable hr
  refine ⟨h.ops_ne_nil, fun hnil => ?_, fun op hop completion => ⟨_, if_pos hop⟩,
    Nat.add_le_add_left h.toStart_le _, fun c' n hrun => ?_⟩
  · have hidle : c.state = .idle := by
      by_contra hbusy
      exact h.ops_ne_nil hbusy hnil
    have hout : c.state ≠ .inProgress := by simp [hidle]
    exact ⟨hidle, Client.doCancel_of_ne hout, fun n hn => h.ended n hn fun hin => absurd hin hout⟩
  · have hleft := h.left_of_path hrun
    exact hleft

/-- A request is cancelled while it connects, and another one accepted. -/
def cancelledWhileConnecting : List (Event Nat) :=
  [.request (getRoot 0),
    .complete ⟨1, .resolve "localhost" "443", some 0, ⟨1, 1, 1⟩⟩ { results := [7] },
    .cancel, .request (getRoot 1)]

/-- Two operations are outstanding and the second request may start four more. Its host is
not found, and nothing is left. -/
theorem requests_drain_cancelledWhileConnecting :
    ∃ c c' : Client Nat, Reachable (system Nat id) anyStep c ∧ c.ops.length = 2 ∧ c.left = 6 ∧
      Path (countingSystem Nat id) anyStep (c, {}) (c', ⟨2, 0⟩) ∧ c'.left + 2 ≤ 6 ∧
      c'.ops = [] := by
  have hany : (run (system Nat id) anyStep Client.create cancelledWhileConnecting).any (fun c =>
      c.ops.length = 2 ∧ c.left = 6 ∧ ((run (countingSystem Nat id) anyStep (c, {})
        [.complete ⟨1, .connect [7], some 0, ⟨1, 1, 1⟩⟩ { ec := some .operationAborted },
          .complete ⟨3, .resolve "localhost" "443", some 1, ⟨3, 3, 2⟩⟩
            { ec := some (.other 1) }]).any
        fun p => p.1.ops = [] ∧ p.2.completed = 2 ∧ p.2.accepted = 0) = true) = true := by
    decide
  obtain ⟨c, hrun, hc⟩ := (Option.any_eq_true _ _).mp hany
  obtain ⟨hops, hleft, hdelivered⟩ := of_decide_eq_true hc
  obtain ⟨⟨c', completed, accepted⟩, hrun', hn⟩ := (Option.any_eq_true _ _).mp hdelivered
  obtain ⟨hnil, rfl, rfl⟩ : c'.ops = [] ∧ completed = 2 ∧ accepted = 0 := of_decide_eq_true hn
  have hr : Reachable (system Nat id) anyStep c := ⟨_, rfl, Path.of_run _ hrun⟩
  have hpath := Path.of_run _ hrun'
  obtain ⟨-, -, -, -, hruns⟩ := requests_drain hr
  have hle : c'.left + 2 ≤ c.left + 5 * 0 := hruns c' ⟨2, 0⟩ hpath
  exact ⟨c, c', hr, hops, hleft, hpath, by omega, hnil⟩

end CppComponents.HttpsClientAsync
