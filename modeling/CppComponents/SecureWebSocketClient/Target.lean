import CppComponents.SecureWebSocketClient.Attempts

/-!
# The target of an attempt

`connect()` stores host, port and resource in the client, one after the other,
on the thread of its caller, and then posts `do_connect()`. The attempt reads
them later: host and port when it is accepted, the host again for the server
name and the verification, host and resource for the WebSocket handshake. No
other thread waits for that, so two calls of `connect()` may interleave at any
of these steps.

`Connecting` is a client together with the calls of `connect()` that are in
progress. A call in progress is `overwritten` once another one has stored a
different value in a member that it had stored. `undisturbed` excludes that such
a call is accepted, and that a call overwrites what the running attempt has
still to read; then each attempt reads what its own call was given.

The calls are made by other threads and by callbacks. A callback runs after its
step has read what it reads of the target, so the stores of a call that it makes
are steps of their own.
-/

namespace CppComponents.SecureWebSocketClient

open CppComponents.Transition

variable {H σ : Type}

/-! ## Calls of `connect()` -/

/-- The members `connect()` stores, in this order. -/
inductive Member where
  | host
  | port
  | resource
  deriving DecidableEq, Repr

/-- The arguments of `connect()`. -/
structure ConnectArgs (H : Type) where
  host : String
  port : String
  resource : String
  handler : Option H
  deriving DecidableEq

def ConnectArgs.value (args : ConnectArgs H) : Member → String
  | .host => args.host
  | .port => args.port
  | .resource => args.resource

/-- What a call does next: store a member, post `do_connect()`, or nothing until
that runs. -/
inductive CallStep where
  | store (m : Member)
  | post
  | posted
  deriving DecidableEq, Repr

def CallStep.afterStore : Member → CallStep
  | .host => .store .port
  | .port => .store .resource
  | .resource => .post

/-- The members that are stored before a step. -/
def CallStep.stored : CallStep → List Member
  | .store .host => []
  | .store .port => [.host]
  | .store .resource => [.host, .port]
  | .post => [.host, .port, .resource]
  | .posted => [.host, .port, .resource]

/-- A call of `connect()` that is in progress. -/
structure ConnectCall (H : Type) where
  args : ConnectArgs H
  next : CallStep
  overwritten : Bool
  deriving DecidableEq

namespace ConnectCall

/-- Another call stores `value`. -/
def overwrite (call : ConnectCall H) (m : Member) (value : String) : ConnectCall H :=
  if m ∈ call.next.stored ∧ call.args.value m ≠ value then { call with overwritten := true }
  else call

def withNext (call : ConnectCall H) (next : CallStep) : ConnectCall H := { call with next := next }

end ConnectCall

namespace Client

def value (c : Client H σ) : Member → String
  | .host => c.host
  | .port => c.port
  | .resource => c.resource

def store (c : Client H σ) (m : Member) (value : String) : Client H σ :=
  match m with
  | .host => c.assign (.host value)
  | .port => c.assign (.port value)
  | .resource => c.assign (.resource value)

end Client

/-! ## The system -/

/-- A client and the calls of `connect()` in progress. `origin n` are the
arguments of the call that started attempt `n`. -/
structure Connecting (H σ : Type) where
  client : Client H σ
  calls : List (ConnectCall H)
  origin : Nat → Option (ConnectArgs H)

inductive TargetEvent (H : Type) where
  | call (args : ConnectArgs H)
  /-- a call takes its next step -/
  | advance (call : ConnectCall H)
  /-- the executor runs the `do_connect()` of a call -/
  | run (call : ConnectCall H)
  | client (e : Event H)
  deriving DecidableEq

/-- The steps of the client that are not steps of `connect()`. -/
def Event.isOther : Event H → Bool
  | .assign _ => false
  | .connect _ => false
  | _ => true

namespace Connecting

variable [DecidableEq H] (cb : Callbacks H σ)

def step (s : Connecting H σ) : TargetEvent H → Option (Connecting H σ)
  | .call args => some { s with calls := s.calls ++ [⟨args, .store .host, false⟩] }
  | .advance call =>
    if call ∈ s.calls then
      match call.next with
      | .store m =>
        some { s with
          client := s.client.store m (call.args.value m)
          calls := (s.calls.erase call).map (·.overwrite m (call.args.value m)) ++
            [call.withNext (.afterStore m)] }
      | .post => some { s with calls := s.calls.erase call ++ [call.withNext .posted] }
      | .posted => none
    else none
  | .run call =>
    if call ∈ s.calls ∧ call.next = .posted then
      some {
        client := s.client.doConnect cb call.args.handler
        calls := s.calls.erase call
        origin := fun n =>
          if s.client.state = .disconnected ∧ n = s.client.attempt + 1 then some call.args
          else s.origin n }
    else none
  | .client e =>
    if e.isOther then (s.client.step cb e).map fun c => { s with client := c } else none

def system : System (Connecting H σ) (TargetEvent H) where
  init s := (Client.system cb).init s.client ∧ s.calls = [] ∧ s.origin = fun _ => none
  step := step cb

end Connecting

/-! ## What an attempt reads -/

/-- What is read is what `args` says. -/
def TargetUse.Matches (args : ConnectArgs H) : TargetUse → Prop
  | .resolve host port => host = args.host ∧ port = args.port
  | .serverName host => host = args.host
  | .verification host => host = args.host
  | .websocketHandshake host resource => host = args.host ∧ resource = args.resource

def Obs.asTarget : Obs H → Option (Nat × TargetUse)
  | .target n use => some (n, use)
  | _ => none

/-- The running attempt has still to read the host and the resource. -/
def Attempts.Reading (v : Attempts H) : Prop :=
  v.state = .connecting ∧ ∃ op ∈ v.phases v.current, op.1 ≠ .websocketHandshake

/-- The part of a client that concerns the target. -/
@[ext] structure Targets (H : Type) where
  attempts : Attempts H
  value : Member → String
  uses : List (Nat × TargetUse)

def Client.targets (c : Client H σ) : Targets H where
  attempts := c.attempts
  value := c.value
  uses := c.trace.filterMap Obs.asTarget

namespace Client

theorem targets_log_attempt (c : Client H σ) (o : AttemptObs H) :
    (c.log (.attempt o)).targets = { c.targets with attempts :=
      { c.attempts with log := c.attempts.log ++ [o] } } :=
  Targets.ext (attempts_log_attempt c o) rfl (by simp [targets, log, Obs.asTarget])

/-- A transfer reads no target. -/
theorem targets_log (c : Client H σ) {o : Obs H} (ho : o.IsTransfer) :
    (c.log o).targets = c.targets := by
  refine Targets.ext (attempts_log c (Obs.asAttempt_of_isTransfer ho)) rfl ?_
  cases o with
  | target => cases ho
  | _ => simp [targets, log, Obs.asTarget]

theorem targets_logTargets (c : Client H σ) (n : Nat) (uses : List TargetUse) :
    (c.logTargets n uses).targets =
      { c.targets with uses := c.targets.uses ++ uses.map fun use => (n, use) } := by
  refine Targets.ext (attempts_logTargets c n uses) rfl ?_
  simp [targets, logTargets, List.filterMap_map, Function.comp_def, Obs.asTarget]

/-- The target is a view that reads, writes, timers and user code leave alone. -/
theorem targetsFrame (cb : Callbacks H σ) : Frame cb targets where
  fields := fun _ _ _ _ _ _ _ _ => rfl
  settings := fun _ _ _ _ _ _ _ => rfl
  start := fun c _ hop =>
    congrArg (fun a => { c.targets with attempts := a }) (attempts_startOp c hop)
  remove := fun c _ hop =>
    congrArg (fun a => { c.targets with attempts := a }) (attempts_removeOp c hop)
  log := fun c _ ho => targets_log c ho
  owner := fun _ _ _ => rfl
  setState := fun _ _ state h =>
    congrArg (fun v : Targets H => { v with attempts := { v.attempts with state := state } }) h

variable (cb : Callbacks H σ)

/-- The connect handler is called without a look at the target. -/
theorem targets_answerConnect (c : Client H σ) (n : Nat) (handler : Option H)
    (ec : Option ErrorCode) :
    (c.answerConnect cb n handler ec).targets = { c.targets with attempts :=
      { c.attempts with log := c.attempts.log ++ Attempts.answer n handler ec } } := by
  refine Targets.ext (attempts_answerConnect cb c n handler ec) ?_ ?_
  · cases handler <;> rfl
  · cases handler with
    | none => rfl
    | some h => exact congrArg Targets.uses (targets_log_attempt c (.answered n h ec))

/-- `do_connect()` reads host and port if it accepts. -/
theorem targets_doConnect (c : Client H σ) (handler : Option H) :
    (c.doConnect cb handler).targets =
      if c.state = .disconnected then
        { c.targets with
          attempts := c.attempts.accept handler
          uses := c.targets.uses ++ [(c.attempt + 1, .resolve c.host c.port)] }
      else c.targets := by
  have hattempts := attempts_doConnect cb c handler
  by_cases hstate : c.state = .disconnected
  · rw [if_pos hstate] at hattempts ⊢
    refine Targets.ext hattempts ?_ ?_
    all_goals
      unfold doConnect
      rw [if_neg (not_not_intro hstate)]
    · rfl
    · simp [targets, startPhase, log, createStream, setState]
      rfl
  · rw [if_neg hstate]
    unfold doConnect
    rw [if_pos hstate]
    cases handler with
    | none => rfl
    | some h =>
      exact ((targetsFrame cb).rejectConnect c h).trans
        (targets_log c (o := .rejectedConnect h) trivial)

end Client

/-- What the completion of an operation does to the target. -/
inductive Targets.Progress (phase : Phase) (n : Nat) (handler : Option H) (v : Targets H) :
    Targets H → Prop where
  | failed (uses : List TargetUse) (ec : ErrorCode) :
      uses <+: phase.reads (v.value .host) (v.value .resource) → Progress phase n handler v
      { v with
        attempts := v.attempts.enter .disconnected (Attempts.answer n handler (some ec))
        uses := v.uses ++ uses.map fun use => (n, use) }
  | started (next : Phase) : phase.next = some next → Progress phase n handler v
      { v with
        attempts := v.attempts.start n next handler
        uses := v.uses ++
          (phase.reads (v.value .host) (v.value .resource)).map fun use => (n, use) }
  | connected : Progress phase n handler v
      { v with attempts :=
        v.attempts.enter .connected (.connected n :: Attempts.answer n handler none) }

/-- In the view of the target, each completion of an attempt is a `Progress`. -/
theorem Client.targets_moves {cb : Callbacks H σ} {c : Client H σ} {phase : Phase} {n : Nat}
    {handler : Option H} {v : Targets H} (h : Moves cb targets phase n handler c v) :
    c.targets.Progress phase n handler v := by
  rcases h with ⟨uses, ec, c₁, huses, hc₁, hv⟩ | ⟨ws, next, hnext, hv⟩ | ⟨-, hv⟩
  · have hclosed : ((c.logTargets n uses).setState .disconnected).targets =
        { c.targets with
          attempts := { c.attempts with state := .disconnected }
          uses := c.targets.uses ++ uses.map fun use => (n, use) } :=
      congrArg (fun v : Targets H => { v with attempts :=
        { v.attempts with state := .disconnected } }) (targets_logTargets c n uses)
    have hattempts : c₁.attempts = { c.attempts with state := .disconnected } :=
      congrArg Targets.attempts (hc₁.trans hclosed)
    rw [hv, targets_answerConnect, hc₁, hclosed, hattempts]
    exact .failed uses ec huses
  · have hview : ((c.logTargets n (phase.reads c.host c.resource)).startPhase ws next n
        handler).targets = { c.targets with
          attempts := c.attempts.start n next handler
          uses := c.targets.uses ++
            (phase.reads c.host c.resource).map fun use => (n, use) } := by
      have huses := congrArg Targets.uses (targets_logTargets c n (phase.reads c.host c.resource))
      refine Targets.ext ((attempts_startPhase _ ws next n handler).trans ?_) rfl huses
      rw [attempts_logTargets]
    rw [hv, hview]
    exact .started next hnext
  · have hview : (c.establish n).targets =
        { c.targets with attempts := c.attempts.enter .connected [.connected n] } := by
      rw [establish, targets_log _ (o := .write _) trivial, targets_log_attempt]
      rfl
    have hattempts : (c.establish n).attempts = c.attempts.enter .connected [.connected n] :=
      congrArg Targets.attempts hview
    rw [hv, targets_answerConnect, hview, hattempts]
    simp only [Attempts.enter, List.append_assoc, List.singleton_append]
    exact .connected

/-! ## Undisturbed runs -/

/-- A call does not overwrite what the running attempt has still to read, and is
not accepted once another call has overwritten what it stored. While an attempt
is running, only its own operations complete. -/
def undisturbed : Guard (Connecting H σ) (TargetEvent H)
  | s, .advance call =>
    match call.next with
    | .store m => m ≠ .port → s.client.attempts.Reading →
        ∀ args ∈ s.origin s.client.attempt, call.args.value m = args.value m
    | _ => True
  | s, .run call => s.client.state = .disconnected → call.overwritten = false
  | s, .client e => Client.onlyCurrentCompletions s.client e
  | _, _ => True

instance (v : Attempts H) : Decidable v.Reading := by
  unfold Attempts.Reading
  infer_instance

instance (s : Connecting H σ) (e : TargetEvent H) : Decidable (undisturbed s e) := by
  unfold undisturbed
  split
  · split <;> infer_instance
  all_goals infer_instance

/-- The members are what the calls in progress and the running attempt were
given. -/
structure TargetInv (v : Targets H) (calls : List (ConnectCall H))
    (origin : Nat → Option (ConnectArgs H)) : Prop where
  attempts : v.attempts.Inv
  stored : ∀ call ∈ calls, call.overwritten = false → ∀ m ∈ call.next.stored,
    v.value m = call.args.value m
  unborn : ∀ n, v.attempts.current < n → origin n = none
  accepted : ∀ n handler, .accepted n handler ∈ v.attempts.log →
    ∃ args, origin n = some args ∧ args.handler = handler
  reading : v.attempts.Reading → ∃ args, origin v.attempts.current = some args ∧
    v.value .host = args.host ∧ v.value .resource = args.resource
  uses : ∀ n use, (n, use) ∈ v.uses → ∃ args, origin n = some args ∧ use.Matches args

theorem mem_stored_afterStore {m m' : Member} (h : m' ∈ (CallStep.afterStore m).stored) :
    m' = m ∨ m' ∈ (CallStep.store m).stored := by
  cases m <;> cases m' <;> simp_all [CallStep.afterStore, CallStep.stored]

/-- `connect()` stores one member at a time. -/
theorem Client.targets_store (c : Client H σ) (m : Member) (value : String) :
    (c.store m value).targets = { c.targets with value := Function.update c.value m value } := by
  refine Targets.ext ?_ (funext fun m' => ?_) ?_
  · cases m <;> rfl
  · cases m <;> cases m' <;> rfl
  · cases m <;> rfl

namespace TargetInv

variable {v : Targets H} {calls : List (ConnectCall H)} {origin : Nat → Option (ConnectArgs H)}

/-- A new call has stored nothing. -/
theorem call (h : TargetInv v calls origin) (args : ConnectArgs H) :
    TargetInv v (calls ++ [⟨args, .store .host, false⟩]) origin :=
  { h with
    stored := fun call hcall hover m hm => by
      rcases List.mem_append.mp hcall with hcall | hcall
      · exact h.stored call hcall hover m hm
      · rw [List.mem_singleton.mp hcall] at hm
        cases hm }

/-- Calls that are no longer in progress do not matter. -/
theorem subset (h : TargetInv v calls origin) {calls' : List (ConnectCall H)}
    (hsub : ∀ call ∈ calls', call ∈ calls) : TargetInv v calls' origin :=
  { h with stored := fun call hcall => h.stored call (hsub call hcall) }

variable [DecidableEq H]

/-- A call stores a member. -/
theorem store (h : TargetInv v calls origin) {call : ConnectCall H} {m : Member}
    (hcall : call ∈ calls) (hnext : call.next = .store m)
    (hok : m ≠ .port → v.attempts.Reading → ∀ args ∈ origin v.attempts.current,
      call.args.value m = args.value m) :
    TargetInv { v with value := Function.update v.value m (call.args.value m) }
      ((calls.erase call).map (·.overwrite m (call.args.value m)) ++
        [call.withNext (.afterStore m)]) origin where
  attempts := h.attempts
  stored := by
    intro call' hcall' hover m' hm'
    show Function.update v.value m (call.args.value m) m' = _
    rcases List.mem_append.mp hcall' with hcall' | hcall'
    · obtain ⟨old, hold, rfl⟩ := List.mem_map.mp hcall'
      unfold ConnectCall.overwrite at hover hm' ⊢
      split at hover
      · cases hover
      · rename_i hkeep
        rw [if_neg hkeep] at hm' ⊢
        by_cases hm : m' = m
        · subst hm
          -- the other call stored the same value
          rw [Function.update_self]
          by_contra hne
          exact hkeep ⟨hm', fun heq => hne heq.symm⟩
        · rw [Function.update_of_ne hm]
          exact h.stored old (List.mem_of_mem_erase hold) hover m' hm'
    · obtain rfl := List.mem_singleton.mp hcall'
      by_cases hm : m' = m
      · subst hm
        rw [Function.update_self]
        rfl
      · rw [Function.update_of_ne hm]
        refine h.stored call hcall hover m' ?_
        rw [hnext]
        exact (mem_stored_afterStore hm').resolve_left hm
  unborn := h.unborn
  accepted := h.accepted
  reading := by
    intro hreading
    obtain ⟨args, hargs, hhost, hresource⟩ := h.reading hreading
    have hagree := fun hport => hok hport hreading args hargs
    refine ⟨args, hargs, ?_, ?_⟩
    · cases m with
      | host => exact hagree (by decide)
      | _ => exact hhost
    · cases m with
      | resource => exact hagree (by decide)
      | _ => exact hresource
  uses := h.uses

/-- A call posts its `do_connect()`. -/
theorem post (h : TargetInv v calls origin) {call : ConnectCall H} (hcall : call ∈ calls)
    (hnext : call.next = .post) :
    TargetInv v (calls.erase call ++ [call.withNext .posted]) origin :=
  { h with
    stored := fun call' hcall' hover m hm => by
      rcases List.mem_append.mp hcall' with hcall' | hcall'
      · exact h.stored call' (List.mem_of_mem_erase hcall') hover m hm
      · obtain rfl := List.mem_singleton.mp hcall'
        refine h.stored call hcall hover m ?_
        rw [hnext]
        exact hm }

omit [DecidableEq H] in
/-- A call that is not overwritten is accepted. -/
theorem accept (h : TargetInv v calls origin) {call : ConnectCall H} (hcall : call ∈ calls)
    (hnext : call.next = .posted) (hover : call.overwritten = false)
    (hstate : v.attempts.state = .disconnected) :
    TargetInv
      { v with
        attempts := v.attempts.accept call.args.handler
        uses := v.uses ++
          [(v.attempts.current + 1, .resolve (v.value .host) (v.value .port))] } calls
      (fun n => if n = v.attempts.current + 1 then some call.args else origin n) := by
  -- the call is not overwritten, so the fields still hold its arguments
  have hstored : ∀ m, v.value m = call.args.value m := by
    intro m
    refine h.stored call hcall hover m ?_
    rw [hnext]
    cases m <;> decide
  -- no earlier attempt has the number of the new one
  have hold : ∀ n args, origin n = some args →
      (if n = v.attempts.current + 1 then some call.args else origin n) = some args := by
    intro n args hargs
    have hne : n ≠ v.attempts.current + 1 := by
      rintro rfl
      rw [h.unborn _ (Nat.lt_succ_self _)] at hargs
      cases hargs
    rw [if_neg hne, hargs]
  refine {
    attempts := h.attempts.accept hstate _
    stored := h.stored
    unborn := ?_
    accepted := ?_
    reading := ?_
    uses := ?_ }
  · intro n hn
    have hn : v.attempts.current + 1 < n := hn
    rw [if_neg (by omega)]
    exact h.unborn n (by omega)
  · intro n handler hmem
    rcases List.mem_append.mp hmem with hmem | hmem
    · obtain ⟨args, hargs, hhandler⟩ := h.accepted n handler hmem
      exact ⟨args, hold n args hargs, hhandler⟩
    · cases List.mem_singleton.mp hmem
      exact ⟨call.args, if_pos rfl, rfl⟩
  · intro _
    exact ⟨call.args, if_pos rfl, hstored .host, hstored .resource⟩
  · intro n use hmem
    rcases List.mem_append.mp hmem with hmem | hmem
    · obtain ⟨args, hargs, hmatches⟩ := h.uses n use hmem
      exact ⟨args, hold n args hargs, hmatches⟩
    · cases List.mem_singleton.mp hmem
      exact ⟨call.args, if_pos rfl, hstored .host, hstored .port⟩

omit [DecidableEq H]

/-- The attempts change in a way that starts nothing. -/
theorem attempts_of_not_reading (h : TargetInv v calls origin) {a : Attempts H} (hinv : a.Inv)
    (hcurrent : a.current = v.attempts.current)
    (hlog : ∀ n handler, .accepted n handler ∈ a.log → .accepted n handler ∈ v.attempts.log)
    (hreading : a.Reading → v.attempts.Reading) :
    TargetInv { v with attempts := a } calls origin where
  attempts := hinv
  stored := h.stored
  unborn := fun n hn => h.unborn n (hcurrent ▸ hn)
  accepted := fun n handler hmem => h.accepted n handler (hlog n handler hmem)
  reading := fun hr => by
    have hold := h.reading (hreading hr)
    rwa [← hcurrent] at hold
  uses := h.uses

/-- What the completion handler of the running attempt reads is right. -/
theorem read (h : TargetInv v calls origin) {phase : Phase} {handler : Option H}
    (hstate : v.attempts.state = .connecting)
    (hmem : (phase, handler) ∈ v.attempts.phases v.attempts.current) {use : TargetUse}
    (huse : use ∈ phase.reads (v.value .host) (v.value .resource)) :
    ∃ args, origin v.attempts.current = some args ∧ use.Matches args := by
  have hreading : v.attempts.Reading := by
    refine ⟨hstate, (phase, handler), hmem, ?_⟩
    rintro rfl
    cases huse
  obtain ⟨args, hargs, hhost, hresource⟩ := h.reading hreading
  refine ⟨args, hargs, ?_⟩
  cases phase with
  | resolve | websocketHandshake => cases huse
  | connect =>
    simp only [Phase.reads, List.mem_cons, List.not_mem_nil, or_false] at huse
    rcases huse with rfl | rfl <;> exact hhost
  | sslHandshake =>
    obtain rfl := List.mem_singleton.mp huse
    exact ⟨hhost, hresource⟩

/-- The running attempt has read some more. -/
theorem logUses (h : TargetInv v calls origin) {uses : List TargetUse}
    (huses : ∀ use ∈ uses, ∃ args, origin v.attempts.current = some args ∧ use.Matches args) :
    TargetInv { v with uses := v.uses ++ uses.map fun use => (v.attempts.current, use) } calls
      origin :=
  { h with
    uses := fun n use hmem => by
      rcases List.mem_append.mp hmem with hmem | hmem
      · exact h.uses n use hmem
      · obtain ⟨use', huse, heq⟩ := List.mem_map.mp hmem
        cases heq
        exact huses _ huse }

/-! ## The steps of the client -/

/-- An answer accepts no attempt. -/
theorem mem_of_mem_answer {l : List (AttemptObs H)} {n m : Nat} {handler handler' : Option H}
    {ec : Option ErrorCode}
    (h : .accepted n handler ∈ l ++ Attempts.answer m handler' ec) : .accepted n handler ∈ l := by
  rcases List.mem_append.mp h with h | h
  · exact h
  · obtain ⟨_, -, heq⟩ := List.mem_map.mp h
    cases heq

/-- The running attempt goes on or ends. -/
theorem progress (h : TargetInv v calls origin) {phase : Phase} {handler : Option H}
    {rest : Nat → List (Phase × Option H)} {v' : Targets H}
    (hstate : v.attempts.state = .connecting)
    (hcompletes : v.attempts.Completes v.attempts.current phase handler rest)
    (hprogress : Targets.Progress phase v.attempts.current handler
      { v with attempts := v.attempts.complete rest } v') : TargetInv v' calls origin := by
  have hinv : ∀ a, Attempts.Moves _ _ _ a → a.Inv :=
    fun _ => h.attempts.progress hstate hcompletes
  -- what the handler reads are the arguments of the call of the running attempt
  have hread : ∀ use ∈ phase.reads (v.value .host) (v.value .resource),
      ∃ args, origin v.attempts.current = some args ∧ use.Matches args :=
    fun _ huse => h.read hstate hcompletes.mem huse
  cases hprogress with
  | failed uses ec hpre =>
    have hlog := h.logUses fun use huse => hread use (hpre.subset huse)
    refine hlog.attempts_of_not_reading (hinv _ (.inl ⟨ec, rfl⟩)) rfl ?_ ?_
    · exact fun n handler hmem => mem_of_mem_answer hmem
    · exact fun hreading => by cases hreading.1
  | started next hnext =>
    have hlog := h.logUses fun use huse => hread use huse
    refine hlog.attempts_of_not_reading (hinv _ (.inr (.inl ⟨next, rfl⟩))) rfl ?_ ?_
    · exact fun _ _ hmem => hmem
    · intro _
      refine ⟨hstate, (phase, handler), hcompletes.mem, ?_⟩
      rintro rfl
      cases hnext
  | connected =>
    refine h.attempts_of_not_reading (hinv _ (.inr (.inr rfl))) rfl ?_ ?_
    · intro n handler' hmem
      rcases List.mem_append.mp hmem with hmem | hmem
      · exact hmem
      · rcases List.mem_cons.mp hmem with heq | hmem
        · cases heq
        · exact absurd (mem_of_mem_answer (l := []) hmem) List.not_mem_nil
    · exact fun hreading => by cases hreading.1

/-- A closed attempt reads nothing any more. -/
theorem close (h : TargetInv v calls origin) :
    TargetInv { v with attempts := v.attempts.close } calls origin := by
  have hstate : v.attempts.close.state ≠ .connecting := by
    unfold Attempts.close
    split
    · exact fun hstate => by cases hstate
    · split
      · exact fun hstate => by cases hstate
      · assumption
  refine h.attempts_of_not_reading h.attempts.close ?_ ?_ fun hreading => absurd hreading.1 hstate
  · unfold Attempts.close
    split_ifs <;> rfl
  · unfold Attempts.close
    intro n handler hmem
    split at hmem
    · simpa [Attempts.enter] using hmem
    · split at hmem <;> exact hmem

end TargetInv

/-- One case for each kind of step: only a completion of the running attempt reads the
members. -/
theorem targetInv_viewStep [DecidableEq H] {cb : Callbacks H σ} {c : Client H σ} {e : Event H}
    {v : Targets H} {calls : List (ConnectCall H)} {origin : Nat → Option (ConnectArgs H)}
    (h : TargetInv c.targets calls origin) (hok : Client.onlyCurrentCompletions c e)
    (hstep : Client.ViewStep cb Client.targets c e v) : TargetInv v calls origin := by
  rcases hstep with hv | ⟨c₀, c₁, ec, -, hstate, hc₀, hc₁, hv⟩ |
    ⟨stream, phase, n, handler, r, -, hop, hidle, hv⟩ |
    ⟨stream, phase, n, handler, r, rfl, hop, hstate, hmoves⟩
  · exact hv ▸ h
  · have hlost : v =
        { c.targets with attempts := { c.targets.attempts with state := .disconnected } } :=
      hv.trans (hc₁.trans (congrArg (fun v : Targets H =>
        { v with attempts := { v.attempts with state := .disconnected } }) hc₀))
    have hne : c.targets.attempts.state ≠ .connecting := by
      simp [Client.targets, Client.attempts, hstate]
    rw [hlost]
    exact h.attempts_of_not_reading (h.attempts.lose hne (by decide)) rfl (fun _ _ hmem => hmem)
      fun hreading => by cases hreading.1
  · have hne : c.targets.attempts.state ≠ .connecting :=
      fun hconn => absurd (hidle hconn) (h.attempts.running hconn).1
    rw [hv]
    exact h.attempts_of_not_reading
      (h.attempts.complete _ (Client.completes_removeOp hop).fresh fun hconn => absurd hconn hne)
      rfl (fun _ _ hmem => hmem) fun hreading => absurd hreading.1 hne
  -- only operations of the running attempt complete while it runs
  · obtain rfl : n = c.attempt := hok hstate
    exact h.progress hstate (Client.completes_removeOp hop) (Client.targets_moves hmoves)

namespace Connecting

variable [DecidableEq H] (cb : Callbacks H σ)

/-- The invariant of a client and its calls. -/
def Inv (s : Connecting H σ) : Prop := TargetInv s.client.targets s.calls s.origin

/-- The stores of the calls, the start of an attempt and the steps of the client keep the
invariant. -/
theorem inv_step {s s' : Connecting H σ} {e : TargetEvent H} (h : s.Inv) (hok : undisturbed s e)
    (hstep : s.step cb e = some s') : s'.Inv := by
  cases e with
  | call args =>
    cases hstep
    exact h.call args
  | advance call =>
    simp only [step] at hstep
    split at hstep
    · rename_i hcall
      cases hnext : call.next with
      | store m =>
        simp only [hnext, Option.some.injEq] at hstep
        subst hstep
        simp only [undisturbed, hnext] at hok
        rw [Inv, Client.targets_store]
        exact TargetInv.store h hcall hnext hok
      | post =>
        simp only [hnext, Option.some.injEq] at hstep
        subst hstep
        exact TargetInv.post h hcall hnext
      | posted => simp [hnext] at hstep
    · cases hstep
  | run call =>
    simp only [step] at hstep
    split at hstep
    · rename_i hcall
      cases hstep
      have hsub := fun call' => List.mem_of_mem_erase (a := call') (b := call) (l := s.calls)
      rw [Inv, Client.targets_doConnect]
      -- a call that finds the client busy is rejected and gone
      by_cases hstate : s.client.state = .disconnected
      · rw [if_pos hstate]
        simp only [hstate, true_and]
        exact (TargetInv.accept h hcall.1 hcall.2 (hok hstate) hstate).subset hsub
      · rw [if_neg hstate]
        simp only [hstate, false_and, if_false]
        exact TargetInv.subset h hsub
    · cases hstep
  | client e =>
    simp only [step] at hstep
    split at hstep
    · rename_i hother
      obtain ⟨c', hc', rfl⟩ := Option.map_eq_some_iff.mp hstep
      by_cases hinternal : e.IsInternal
      · exact targetInv_viewStep h hok ((Client.targetsFrame cb).viewStep hinternal hc')
      · cases e with
        | close handler =>
          cases hc'
          have hview : (s.client.close cb handler).targets =
              { s.client.targets with attempts := s.client.attempts.close } := by
            have hclose := (Client.targetsFrame cb).close s.client handler
            have huses := congrArg Targets.uses
              (Client.targets_log_attempt s.client (.closed s.client.attempt))
            refine Targets.ext (Client.attempts_close cb s.client handler) ?_ ?_
            · refine (congrArg Targets.value hclose).trans ?_
              split_ifs <;> rfl
            · refine (congrArg Targets.uses hclose).trans ?_
              split_ifs
              · exact huses
              all_goals rfl
          rw [Inv, hview]
          exact TargetInv.close h
        | assign | connect => cases hother
        | _ => exact absurd trivial hinternal
    · cases hstep

/-! ## One target per attempt -/

/-- Each attempt has the handler of one call of `connect()`, and reads what this
call was given. -/
structure OneTarget (s : Connecting H σ) : Prop where
  handler : ∀ n handler, .attempt (.accepted n handler) ∈ s.client.trace →
    ∃ args, s.origin n = some args ∧ args.handler = handler
  target : ∀ n use, .target n use ∈ s.client.trace →
    ∃ args, s.origin n = some args ∧ use.Matches args
  /-- no call changes what the running attempt has still to read -/
  kept : s.client.attempts.Reading → ∃ args, s.origin s.client.attempt = some args ∧
    s.client.host = args.host ∧ s.client.resource = args.resource

/-- **One target per attempt**, in every undisturbed run. -/
theorem one_target {s : Connecting H σ} (hr : Reachable (system cb) undisturbed s) :
    s.OneTarget := by
  have hinv : s.Inv := by
    refine hr.invariant (I := Inv) ?_ fun _ _ _ h hok hstep => inv_step cb h hok hstep
    rintro s ⟨⟨owner, now, hclient⟩, hcalls, horigin⟩
    rw [Inv, hclient, hcalls, horigin]
    exact {
      attempts := Client.inv_create owner now
      stored := fun _ hcall => by cases hcall
      unborn := fun _ _ => rfl
      accepted := fun _ _ hmem => by cases hmem
      reading := fun hreading => by cases hreading.1
      uses := fun _ _ hmem => by cases hmem }
  constructor
  · intro n handler hmem
    exact hinv.accepted n handler (List.mem_filterMap.mpr ⟨_, hmem, rfl⟩)
  · intro n use hmem
    exact hinv.uses n use (List.mem_filterMap.mpr ⟨_, hmem, rfl⟩)
  · exact hinv.reading

omit [DecidableEq H] in
/-- A call of `connect()` that nothing interrupts. -/
def connectSteps (args : ConnectArgs H) : List (TargetEvent H) :=
  [.call args, .advance ⟨args, .store .host, false⟩, .advance ⟨args, .store .port, false⟩,
    .advance ⟨args, .store .resource, false⟩, .advance ⟨args, .post, false⟩,
    .run ⟨args, .posted, false⟩]

/-- The host is resolved, and connected to. -/
def resolved : List (TargetEvent Nat) :=
  [.client (.complete (.connect 1 .resolve 1 (some 1)) {}),
    .client (.complete (.connect 1 .connect 1 (some 1)) {})]

/-- A second call stores its host while the first one's attempt resolves. -/
def overlappingConnect : List (TargetEvent Nat) :=
  connectSteps ⟨"first", "443", "/", some 1⟩ ++
    [.call ⟨"second", "443", "/", some 2⟩,
      .advance ⟨⟨"second", "443", "/", some 2⟩, .store .host, false⟩] ++ resolved

/-- A client without calls. -/
def initial : Connecting Nat Unit := ⟨Client.create () 0, [], fun _ => none⟩

theorem system_init_initial : (system .silent).init initial := ⟨⟨(), 0, rfl⟩, rfl, rfl⟩

/-- The certificate of the first host is verified against the second one. -/
theorem not_oneTarget_overlappingConnect :
    ¬ ∀ s : Connecting Nat Unit, Reachable (system .silent) anyStep s → s.OneTarget := by
  intro hall
  have hsome : ((run (system .silent) anyStep initial overlappingConnect).map fun s =>
      (s.client.targets.uses, s.origin 1)) =
      some ([(1, .resolve "first" "443"), (1, .serverName "second"), (1, .verification "second")],
        some ⟨"first", "443", "/", some 1⟩) := by
    decide
  obtain ⟨s, hrun, hs⟩ := Option.map_eq_some_iff.mp hsome
  obtain ⟨huses, horigin⟩ := Prod.mk.inj hs
  have hmem : (1, .verification "second") ∈ s.client.targets.uses := by
    rw [huses]
    decide
  obtain ⟨o, ho, htarget⟩ := List.mem_filterMap.mp hmem
  cases o with
  | target n use =>
    cases htarget
    have hone := hall s ⟨_, system_init_initial, Path.of_run overlappingConnect hrun⟩
    obtain ⟨args, hargs, hmatches⟩ := hone.target 1 _ ho
    rw [horigin] at hargs
    cases hargs
    have hhost : "second" = "first" := hmatches
    exact absurd hhost (by decide)
  | _ => cases htarget

/-- The second call is made once the first one has failed. -/
def laterConnect : List (TargetEvent Nat) :=
  connectSteps ⟨"first", "443", "/", some 1⟩ ++
    [.client (.complete (.connect 1 .resolve 1 (some 1)) { ec := some .operationAborted })] ++
    connectSteps ⟨"second", "443", "/", some 2⟩

/-- The first attempt has failed when the second call stores its host. -/
theorem one_target_laterConnect :
    ∃ s : Connecting Nat Unit, run (system .silent) undisturbed initial laterConnect = some s ∧
      s.client.targets.uses = [(1, .resolve "first" "443"), (2, .resolve "second" "443")] ∧
      s.OneTarget := by
  have hsome : ((run (system .silent) undisturbed initial laterConnect).map fun s =>
      s.client.targets.uses) =
      some [(1, .resolve "first" "443"), (2, .resolve "second" "443")] := by
    decide
  obtain ⟨s, hrun, huses⟩ := Option.map_eq_some_iff.mp hsome
  exact ⟨s, hrun, huses,
    one_target .silent ⟨_, system_init_initial, Path.of_run laterConnect hrun⟩⟩

end Connecting

end CppComponents.SecureWebSocketClient
