import CppComponents.HttpsClientAsync.Requests

/-!
# The storage an operation uses

A handshake, a write and a read run on the stream object; a write refers to
`http_request`, a read to `http_response` and `read_buffer`. All of these have
to stay as they are until the operation's completion handler is called, also
when the operation has been cancelled.

Every path that ends a request destroys the stream and resets the messages at
once. On the paths of the completion handlers the one operation of the request
has just completed. `do_cancel()` comes at any time: it destroys what the
outstanding handshake, write or read still uses.
-/

namespace CppComponents.HttpsClientAsync

open CppComponents.Transition

variable {H : Type} {preparePayload : HttpRequest → HttpRequest}

/-- The operations that run on the stream object. -/
def Operation.UsesStream : Operation → Prop
  | .sslHandshake _ | .write _ | .read => True
  | .resolve _ _ | .connect _ => False

instance (operation : Operation) : Decidable operation.UsesStream := by
  cases operation <;> unfold Operation.UsesStream <;> infer_instance

/-- The members an operation refers to. -/
def Operation.members : Operation → List Member
  | .write _ => [.httpRequest]
  | .read => [.httpResponse, .readBuffer]
  | .resolve _ _ | .connect _ | .sslHandshake _ => []

theorem Operation.usesStream_of_mem_members {operation : Operation} {m : Member}
    (h : m ∈ operation.members) : operation.UsesStream := by
  cases operation with
  | sslHandshake _ | write _ | read => trivial
  | resolve _ _ | connect _ => cases h

/-- What the outstanding operations use is there, and is theirs. -/
structure StorageSafe (c : Client H) : Prop where
  /-- the stream has not been destroyed -/
  stream : ∀ op ∈ c.ops, op.operation.UsesStream →
    ∃ stream, c.stream = some stream ∧ op.stream = some stream.id
  /-- the members have not been assigned since the operation was started -/
  members : ∀ op ∈ c.ops, ∀ m ∈ op.operation.members,
    c.assigned.times m = op.assigned.times m
  /-- no two operations share a member -/
  exclusive : c.ops.Pairwise fun op op' =>
    ∀ m ∈ op.operation.members, m ∉ op'.operation.members

/-- `do_cancel()` ends a request only while it resolves or connects. -/
def cancelsBeforeHandshake : Guard (Client H) (Event H) :=
  fun c e => e = .cancel → c.state = .inProgress → ∀ op ∈ c.ops, ¬ op.operation.UsesStream

instance (c : Client H) (e : Event H) : Decidable (cancelsBeforeHandshake c e) :=
  match e with
  | .cancel => decidable_of_iff
      (c.state = .inProgress → ∀ op ∈ c.ops, ¬ op.operation.UsesStream) (by
        simp [cancelsBeforeHandshake])
  | .request _ | .complete _ _ => isTrue fun he => by cases he

/-- An operation on the stream is the running request's, and nothing has been
assigned since it was started. -/
def HoldsStorage (c : Client H) : Prop :=
  ∀ op ∈ c.ops, op.operation.UsesStream →
    c.state = .inProgress ∧ op.generation = c.requestGeneration ∧
      op.stream = c.stream.map (·.id) ∧ op.assigned = c.assigned

namespace HoldsStorage

variable {c c' : Client H}

/-- A step after which no operation on the stream is outstanding. -/
theorem of_none (h : ∀ op ∈ c.ops, ¬ op.operation.UsesStream) : HoldsStorage c :=
  fun op hop huses => absurd huses (h op hop)

/-- While no request runs, no operation on the stream is outstanding. -/
theorem none_of_state (h : HoldsStorage c) (hstate : c.state ≠ .inProgress) :
    ∀ op ∈ c.ops, ¬ op.operation.UsesStream :=
  fun op hop huses => hstate (h op hop huses).1

theorem doRequest (h : HoldsStorage c) (args : RequestArgs H) :
    HoldsStorage (c.doRequest preparePayload args) := by
  by_cases hstate : c.state = .idle
  · have hnone := h.none_of_state (by simp [hstate])
    rw [Client.doRequest_idle hstate]
    refine of_none fun op hop => ?_
    rcases List.mem_append.mp hop with hop | hop
    · exact hnone op hop
    · obtain rfl := List.mem_singleton.mp hop
      exact id
  · rw [Client.doRequest_busy hstate]
    exact h

theorem doCancel (h : HoldsStorage c)
    (hok : c.state = .inProgress → ∀ op ∈ c.ops, ¬ op.operation.UsesStream) :
    HoldsStorage c.doCancel := by
  by_cases hin : c.state = .inProgress
  · rw [Client.doCancel_inProgress hin]
    exact of_none (hok hin)
  · rw [Client.doCancel_of_ne hin]
    exact h

theorem erase (h : HoldsStorage c) (op : Op) : HoldsStorage { c with ops := c.ops.erase op } :=
  fun op' hop' => h op' (List.mem_of_mem_erase hop')

/-- An operation of the running request completes: it was the only one on the
stream, and the next one takes the storage as it is. -/
theorem advance (h : HoldsStorage c) (ha : Answering preparePayload c) {op : Op}
    (hop : op ∈ c.ops) (hcurrent : c.isCurrentRequest op.generation = true)
    (completion : Completion) :
    HoldsStorage ({ c with ops := c.ops.erase op }.handle op completion) := by
  obtain ⟨hin, hgeneration⟩ : c.state = .inProgress ∧ op.generation = c.requestGeneration := by
    simpa [Client.isCurrentRequest] using hcurrent
  obtain ⟨args, operation, hserves⟩ := ha.running hin
  have hselected : op.ofGeneration c.requestGeneration = some op.operation := if_pos hgeneration
  have hnone : (c.ops.erase op).filterMap (Op.ofGeneration c.requestGeneration) = [] :=
    Pending.filterMap_erase_of_singleton hop hselected hserves.outstanding
  have hrest : ∀ op' ∈ c.ops.erase op, ¬ op'.operation.UsesStream := by
    intro op' hop' huses
    obtain ⟨-, hgen', -⟩ := h op' (List.mem_of_mem_erase hop') huses
    have hgone := List.filterMap_eq_nil_iff.mp hnone op' hop'
    simp [Op.ofGeneration, hgen'] at hgone
  rw [Client.handle_current (c := { c with ops := c.ops.erase op }) hcurrent hserves.stream
    hserves.host hserves.request completion]
  cases op.operation.next preparePayload args completion with
  | operation next =>
    obtain ⟨stream, hframe, -⟩ := Client.applyTimeout_frame
      ({ c with ops := c.ops.erase op }.log (.completed c.current completion))
    rw [hframe]
    intro op' hop' huses
    rcases List.mem_append.mp hop' with hold | hnew
    · exact absurd huses (hrest op' hold)
    · obtain rfl := List.mem_singleton.mp hnew
      exact ⟨hin, hgeneration, rfl, rfl⟩
  | outcome ec response =>
    simp only [Client.completeRequest_eq]
    exact of_none hrest

/-- What the invariant is for. -/
theorem storageSafe (h : HoldsStorage c) (ha : Answering preparePayload c) :
    StorageSafe c where
  stream := fun op hop huses => by
    obtain ⟨hin, -, hstream, -⟩ := h op hop huses
    obtain ⟨args, operation, hserves⟩ := ha.running hin
    obtain ⟨stream, hsome⟩ := Option.ne_none_iff_exists'.mp hserves.stream
    rw [hsome] at hstream
    exact ⟨stream, hsome, hstream⟩
  members := fun op hop m hm => by
    obtain ⟨-, -, -, hassigned⟩ := h op hop (Operation.usesStream_of_mem_members hm)
    rw [hassigned]
  exclusive := by
    by_cases hin : c.state = .inProgress
    · obtain ⟨args, operation, hserves⟩ := ha.running hin
      have hone : (c.ops.filterMap (Op.ofGeneration c.requestGeneration)).length ≤ 1 :=
        Nat.le_of_eq (congrArg List.length hserves.outstanding)
      refine (Pending.pairwise_of_length_filterMap_le_one hone).imp_of_mem ?_
      intro op op' hop hop' hother m hm hm'
      obtain ⟨-, hgen, -⟩ := h op hop (Operation.usesStream_of_mem_members hm)
      obtain ⟨-, hgen', -⟩ := h op' hop' (Operation.usesStream_of_mem_members hm')
      simp [Op.ofGeneration, hgen, hgen'] at hother
    · refine List.pairwise_of_forall_mem_list fun op hop op' _ m hm => ?_
      exact absurd (Operation.usesStream_of_mem_members hm) (h.none_of_state hin op hop)

end HoldsStorage

/-! ## The whole system -/

theorem holdsStorage_of_reachable {c : Client H}
    (hr : Reachable (system H preparePayload) cancelsBeforeHandshake c) :
    Answering preparePayload c ∧ HoldsStorage c := by
  refine hr.invariant (I := fun c => Answering preparePayload c ∧ HoldsStorage c) ?_ ?_
  · rintro c rfl
    exact ⟨.init, .of_none fun op hop => by simp [Client.create] at hop⟩
  · rintro c e c' ⟨ha, h⟩ hok he
    refine ⟨ha.step he, ?_⟩
    cases e with
    | request args =>
      obtain rfl : c.doRequest preparePayload args = c' := Option.some.inj he
      exact h.doRequest args
    | cancel =>
      obtain rfl : c.doCancel = c' := Option.some.inj he
      exact h.doCancel (hok rfl)
    | complete op completion =>
      simp only [system, step] at he
      split at he
      · rename_i hop
        cases he
        by_cases hcurrent : c.isCurrentRequest op.generation = true
        · exact h.advance ha hop hcurrent completion
        · have hstale : c.isCurrentRequest op.generation = false := by simpa using hcurrent
          rw [Client.handle_stale (c := { c with ops := c.ops.erase op }) hstale]
          exact h.erase op
      · cases he

/-- **When the storage outlives the operations.** In every run in which
`do_cancel()` ends no request whose handshake, write or read is outstanding,
every outstanding operation has the storage it uses; and a `do_cancel()` that
does end such a request destroys the stream under its operation. -/
theorem storage_outlives_operations {c : Client H}
    (hr : Reachable (system H preparePayload) cancelsBeforeHandshake c) :
    StorageSafe c ∧
      (¬ cancelsBeforeHandshake c .cancel →
        ∃ c', step preparePayload c .cancel = some c' ∧ ¬ StorageSafe c') := by
  obtain ⟨ha, h⟩ := holdsStorage_of_reachable hr
  refine ⟨h.storageSafe ha, fun hcancel => ⟨_, rfl, fun hsafe => hcancel fun _ hin => ?_⟩⟩
  rw [Client.doCancel_inProgress hin] at hsafe
  intro op hop huses
  obtain ⟨stream, hstream, -⟩ := hsafe.stream op hop huses
  cases hstream

/-- A request up to its read, which completes; the next one is cancelled while it
resolves. -/
def readThenCancel : List (Event Nat) :=
  let assigned : Assigned := ⟨1, 1, 1⟩
  [.request (getRoot 0),
    .complete ⟨1, .resolve "localhost" "443", some 0, assigned⟩ { results := [7] },
    .complete ⟨1, .connect [7], some 0, assigned⟩ {},
    .complete ⟨1, .sslHandshake "localhost", some 0, assigned⟩ {},
    .complete ⟨1, .write (buildRequest id (getRoot 0)), some 0, assigned⟩ {},
    .complete ⟨1, .read, some 0, assigned⟩ {},
    .request (getRoot 1), .cancel]

theorem storage_outlives_operations_readThenCancel :
    ∃ c, run (system Nat id) cancelsBeforeHandshake Client.create readThenCancel = some c ∧
      StorageSafe c := by
  have hsome : (run (system Nat id) cancelsBeforeHandshake Client.create
      readThenCancel).isSome := by decide
  obtain ⟨c, hrun⟩ := Option.isSome_iff_exists.mp hsome
  exact ⟨c, hrun, (storage_outlives_operations ⟨_, rfl, Path.of_run readThenCancel hrun⟩).1⟩

/-- The same request, cancelled during its read. -/
def cancelDuringRead : List (Event Nat) := readThenCancel.take 5 ++ [.cancel]

theorem not_storageSafe_cancelDuringRead :
    ∃ c, run (system Nat id) anyStep Client.create cancelDuringRead = some c ∧
      ¬ StorageSafe c := by
  have hsome : ((run (system Nat id) anyStep Client.create cancelDuringRead).map
      fun c => (c.stream, c.ops)) = some (none, [⟨1, .read, some 0, ⟨1, 1, 1⟩⟩]) := by decide
  obtain ⟨c, hrun, hc⟩ := Option.map_eq_some_iff.mp hsome
  simp only [Prod.mk.injEq] at hc
  obtain ⟨hstream, hops⟩ := hc
  refine ⟨c, hrun, fun hsafe => ?_⟩
  obtain ⟨stream, hsome, -⟩ := hsafe.stream ⟨1, .read, some 0, ⟨1, 1, 1⟩⟩ (by simp [hops]) trivial
  rw [hstream] at hsome
  cases hsome

end CppComponents.HttpsClientAsync
