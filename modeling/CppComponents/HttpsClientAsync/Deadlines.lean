import CppComponents.HttpsClientAsync.Requests
import CppComponents.TimeLimit

/-!
# How long a request takes

`apply_timeout()` gives the stream a new expiry whenever an operation has completed and
the next one is started, so the timeout of a request is one for each of its operations,
not one for the whole. The resolve is on no stream and has none. What follows is a limit
for the whole after all: four timeouts, counted from when the host was resolved.

The model has no clock, so it gets one here, and with it the expiry of the stream. That
an operation on a stream completes when the stream expires is Beast's promise
(`punctual`): time then passes no further, by more than the `slack` it takes to run the
completion handler.
-/

namespace CppComponents.HttpsClientAsync

open CppComponents.Transition

variable {H : Type} {preparePayload : HttpRequest → HttpRequest}

/-! ## The stages of a request -/

/-- How many operations of the request have completed before. -/
def Operation.stage : Operation → Nat
  | .resolve _ _ => 0
  | .connect _ => 1
  | .sslHandshake _ => 2
  | .write _ => 3
  | .read => 4

theorem Operation.stage_le (operation : Operation) : operation.stage ≤ 4 := by
  cases operation <;> simp [stage]

theorem Operation.stage_next {args : RequestArgs H} {operation next : Operation}
    {completion : Completion}
    (h : operation.next preparePayload args completion = .operation next) :
    next.stage = operation.stage + 1 := by
  unfold Operation.next at h
  cases hec : completion.ec with
  | some ec => simp [hec] at h
  | none =>
    simp only [hec] at h
    cases operation with
    | resolve | sslHandshake | write =>
      cases h
      rfl
    | read => cases h
    | connect =>
      cases hname : completion.serverName with
      | some ec => simp [hname] at h
      | none =>
        cases hverify : completion.verifyCallback with
        | some ec => simp [hname, hverify] at h
        | none =>
          simp only [hname, hverify] at h
          cases h
          rfl

/-! ## The running request -/

/-- The running request: its generation, its timeout, the time its stream was last given
and the operations that are outstanding. -/
structure Running where
  generation : Nat
  timeout : Int
  expiresAfter : Option Int
  outstanding : List Operation

namespace Client

def running (c : Client H) : Option Running :=
  if c.state = .inProgress then
    some ⟨c.requestGeneration, c.timeout, c.stream.bind (·.expiresAfter), c.outstanding⟩
  else none

/-- `args` are those of the call whose request ran last. -/
def Submitted (c : Client H) (args : RequestArgs H) : Prop :=
  .submitted c.current args .idle ∈ c.trace

theorem running_eq {c : Client H} (hin : c.state = .inProgress) :
    c.running =
      some ⟨c.requestGeneration, c.timeout, c.stream.bind (·.expiresAfter), c.outstanding⟩ :=
  if_pos hin

theorem running_eq_none {c : Client H} (hout : c.state ≠ .inProgress) : c.running = none :=
  if_neg hout

theorem eq_of_running {c : Client H} {r : Running} (h : c.running = some r) :
    c.state = .inProgress ∧
      r = ⟨c.requestGeneration, c.timeout, c.stream.bind (·.expiresAfter), c.outstanding⟩ := by
  by_cases hin : c.state = .inProgress
  · rw [running_eq hin] at h
    exact ⟨hin, (Option.some.inj h).symm⟩
  · rw [running_eq_none hin] at h
    cases h

theorem isCurrentRequest_of_running {c : Client H} {r : Running} (h : c.running = some r)
    {generation : Nat} :
    c.isCurrentRequest generation = true ↔ r.generation = generation := by
  obtain ⟨hin, rfl⟩ := eq_of_running h
  simp [isCurrentRequest, hin, eq_comm]

/-- `apply_timeout()`, as the running request sees it. -/
theorem applyTimeout_expiresAfter {c : Client H} (hstream : c.stream ≠ none) :
    c.applyTimeout.stream.bind (·.expiresAfter) =
      if 0 < c.timeout then some c.timeout else c.stream.bind (·.expiresAfter) := by
  cases hs : c.stream with
  | none => contradiction
  | some stream =>
    by_cases htimeout : 0 < c.timeout
    · have hnot : ¬ c.timeout ≤ 0 := by omega
      simp [applyTimeout, hs, htimeout, hnot]
    · have hle : c.timeout ≤ 0 := by omega
      simp [applyTimeout, hs, htimeout, hle]

end Client

/-! ## What a step does to it -/

/-- What becomes of the running request, and of the record of its call. -/
inductive StepSpec (c : Client H) : Event H → Client H → Prop where
  | unaffected {e : Event H} {c' : Client H}
      (hstale : ∀ op completion, e = .complete op completion →
        c.isCurrentRequest op.generation = false)
      (hrunning : c'.running = c.running)
      (hgeneration : c'.requestGeneration = c.requestGeneration)
      (hargs : ∀ args, c'.Submitted args → c.Submitted args) : StepSpec c e c'
  | ended {e : Event H} {c' : Client H} (hrunning : c'.running = none)
      (hgeneration : c.requestGeneration ≤ c'.requestGeneration) : StepSpec c e c'
  | began {args : RequestArgs H} {c' : Client H}
      (hrunning : c'.running = some ⟨c.requestGeneration + 1, args.timeout, none,
        [.resolve args.host args.port]⟩)
      (hargs : ∀ args', c'.Submitted args' → args' = args) : StepSpec c (.request args) c'
  | next {op : Op} {completion : Completion} {c' : Client H} {r : Running} {next : Operation}
      (hcurrent : c.isCurrentRequest op.generation = true) (hfrom : c.running = some r)
      (hop : r.outstanding = [op.operation]) (hstage : next.stage = op.operation.stage + 1)
      (hrunning : c'.running = some { r with
        expiresAfter := if 0 < r.timeout then some r.timeout else r.expiresAfter
        outstanding := [next] })
      (hargs : ∀ args, c'.Submitted args → c.Submitted args) :
      StepSpec c (.complete op completion) c'

namespace Answering

variable {c c' : Client H}

theorem not_submitted_calls (h : Answering preparePayload c) {args : RequestArgs H}
    {state : RequestState} : Obs.submitted c.calls args state ∉ c.trace := fun hmem =>
  Nat.lt_irrefl _ (h.calls _ hmem)

theorem doRequest_spec (h : Answering preparePayload c) (args : RequestArgs H) :
    StepSpec c (.request args) (c.doRequest preparePayload args) := by
  have h' := h.doRequest args
  by_cases hstate : c.state = .idle
  · have heq : c.doRequest preparePayload args = _ := Client.doRequest_idle hstate args
    have hin : (c.doRequest preparePayload args).state = .inProgress := by rw [heq]
    obtain ⟨args', operation, hserves⟩ := h'.running hin
    refine .began ?_ ?_
    · -- the resolve is what was started, and nothing else is of the new generation
      have hmem : Operation.resolve args.host args.port ∈
          (c.doRequest preparePayload args).outstanding := by
        rw [heq]
        simp [Client.outstanding, Op.ofGeneration]
      rw [hserves.outstanding, List.mem_singleton] at hmem
      rw [Client.running_eq hin, hserves.outstanding, ← hmem, heq]
      rfl
    · intro args'' hargs
      rw [Client.Submitted, heq] at hargs
      rcases List.mem_append.mp hargs with hargs | hargs
      · exact absurd hargs h.not_submitted_calls
      · cases List.mem_singleton.mp hargs
        rfl
  · rw [Client.doRequest_busy hstate]
    refine .unaffected (fun op completion heq => by cases heq) rfl rfl ?_
    intro args' hargs
    rcases List.mem_append.mp hargs with hargs | hargs
    · exact hargs
    · rcases List.mem_cons.mp hargs with hargs | hargs
      · injection hargs with _ _ hidle
        exact absurd hidle.symm hstate
      · obtain ⟨handler, -, hne⟩ := List.mem_map.mp hargs
        cases hne

theorem doCancel_spec : StepSpec c .cancel c.doCancel := by
  by_cases hin : c.state = .inProgress
  · rw [Client.doCancel_inProgress hin]
    exact .ended (Client.running_eq_none fun heq => by cases heq) (Nat.le_succ _)
  · rw [Client.doCancel_of_ne hin]
    exact .unaffected (fun op completion heq => by cases heq) rfl rfl fun args hargs => hargs

theorem complete_spec (h : Answering preparePayload c) {op : Op} (hop : op ∈ c.ops)
    (completion : Completion) :
    StepSpec c (.complete op completion)
      ({ c with ops := c.ops.erase op }.handle op completion) := by
  by_cases hcurrent : c.isCurrentRequest op.generation = true
  · obtain ⟨hin, hgeneration⟩ : c.state = .inProgress ∧ op.generation = c.requestGeneration := by
      simpa [Client.isCurrentRequest] using hcurrent
    obtain ⟨args, operation, hserves⟩ := h.running hin
    have hselected : op.ofGeneration c.requestGeneration = some op.operation := if_pos hgeneration
    obtain rfl : op.operation = operation := by
      have hmem : op.operation ∈ c.outstanding := List.mem_filterMap.mpr ⟨op, hop, hselected⟩
      rw [hserves.outstanding] at hmem
      exact List.mem_singleton.mp hmem
    have hnone : Client.outstanding { c with ops := c.ops.erase op } = [] :=
      Pending.filterMap_erase_of_singleton hop hselected hserves.outstanding
    rw [Client.handle_current (c := { c with ops := c.ops.erase op }) hcurrent hserves.stream
      hserves.host hserves.request completion]
    cases hnext : op.operation.next preparePayload args completion with
    | outcome ec response =>
      simp only [Client.completeRequest_eq]
      exact .ended (Client.running_eq_none fun heq => by cases heq) (Nat.le_refl _)
    | operation next =>
      obtain ⟨stream, hframe, -⟩ := Client.applyTimeout_frame
        ({ c with ops := c.ops.erase op }.log (.completed c.current completion))
      have hexpires := Client.applyTimeout_expiresAfter
        (c := { c with ops := c.ops.erase op }.log (.completed c.current completion))
        hserves.stream
      rw [hframe] at hexpires
      rw [hframe]
      refine .next hcurrent (Client.running_eq hin) hserves.outstanding
        (Operation.stage_next hnext) ?_ ?_
      · rw [Client.running_eq (by exact hin)]
        refine congrArg some (Running.mk.injEq .. |>.mpr ⟨rfl, rfl, hexpires, ?_⟩)
        have hnone : (c.ops.erase op).filterMap (Op.ofGeneration c.requestGeneration) = [] := hnone
        simp [Client.outstanding, Client.start, Client.log, List.filterMap_append, hnone,
          Op.ofGeneration, hgeneration]
      · intro args' hargs
        rcases List.mem_append.mp hargs with hargs | hargs
        · exact hargs
        · cases List.mem_singleton.mp hargs
  · have hstale : c.isCurrentRequest op.generation = false := by simpa using hcurrent
    rw [Client.handle_stale (c := { c with ops := c.ops.erase op }) hstale]
    refine .unaffected ?_ ?_ rfl fun args hargs => hargs
    · intro op' completion' heq
      cases heq
      exact hstale
    · by_cases hin : c.state = .inProgress
      · have hother : op.generation ≠ c.requestGeneration := by
          intro heq
          simp [Client.isCurrentRequest, hin, heq] at hstale
        rw [Client.running_eq hin, Client.running_eq (by exact hin)]
        have hnone : op.ofGeneration c.requestGeneration = none := if_neg hother
        refine congrArg some (Running.mk.injEq .. |>.mpr ⟨rfl, rfl, rfl, ?_⟩)
        exact Pending.filterMap_erase_of_none hnone c.ops
      · rw [Client.running_eq_none hin, Client.running_eq_none (by exact hin)]

theorem step_spec (h : Answering preparePayload c) {e : Event H}
    (he : HttpsClientAsync.step preparePayload c e = some c') : StepSpec c e c' := by
  cases e with
  | request args =>
    cases he
    exact h.doRequest_spec args
  | cancel =>
    cases he
    exact doCancel_spec
  | complete op completion =>
    rw [HttpsClientAsync.step] at he
    split at he
    case isTrue hop =>
      cases he
      exact h.complete_spec hop completion
    case isFalse => cases he

end Answering

/-! ## The clock and the expiries -/

/-- The expiries `apply_timeout()` has given the stream of the running request: it is
called in the completion handlers of the request, and if the stream is left with a time
to expire after, that time starts now. -/
def nextLimit (slack : Nat) (limit : Option TimeLimit) (s : Client H × Int)
    (e : Event H ⊕ Nat) (s' : Client H × Int) : Option TimeLimit :=
  match s'.1.running.bind (·.expiresAfter) with
  | none => none
  | some timeout =>
    match e with
    | .inl (.complete op _) =>
      if s.1.isCurrentRequest op.generation then some (.begin slack s.2 timeout limit) else limit
    | _ => limit

/-- The client with a clock, and with the expiries of its stream. -/
def timedSystem (H : Type) (preparePayload : HttpRequest → HttpRequest) (slack : Nat) :
    System ((Client H × Int) × Option TimeLimit) (Event H ⊕ Nat) :=
  (system H preparePayload).clocked.record none (nextLimit slack)

/-- An operation on the stream is outstanding for at most `slack` after the stream has
expired. -/
def punctual (slack : Nat) : Guard ((Client H × Int) × Option TimeLimit) (Event H ⊕ Nat)
  | s, .inr duration => ∀ l ∈ s.2, ∀ operation ∈ s.1.1.outstanding,
      operation.stage = 0 ∨ s.1.2 + duration ≤ l.expiry + slack
  | _, .inl _ => True

instance (slack : Nat) (s : (Client H × Int) × Option TimeLimit) :
    (e : Event H ⊕ Nat) → Decidable (punctual slack s e)
  | .inr duration => inferInstanceAs (Decidable (∀ l ∈ s.2, ∀ operation ∈ s.1.1.outstanding,
      operation.stage = 0 ∨ s.1.2 + duration ≤ l.expiry + slack))
  | .inl _ => isTrue trivial

/-- What is known of the running request, which waits for `operation`. -/
structure Running.OnTime (slack : Nat) (r : Running) (operation : Operation)
    (limit : Option TimeLimit) (now : Int) : Prop where
  outstanding : r.outstanding = [operation]
  resolving : operation.stage = 0 → r.expiresAfter = none ∧ limit = none
  limited : operation.stage ≠ 0 → 0 < r.timeout → ∃ l, limit = some l ∧ l.InTime slack now ∧
    r.expiresAfter = some r.timeout ∧ l.budget = operation.stage * (r.timeout + slack)

/-- What holds between any two callbacks of the executor. -/
structure Timely (preparePayload : HttpRequest → HttpRequest) (slack : Nat) (c : Client H)
    (now : Int) (limit : Option TimeLimit) : Prop where
  answering : Answering preparePayload c
  onTime : ∀ r, c.running = some r → ∃ operation, r.OnTime slack operation limit now
  timeout : ∀ r args, c.running = some r → c.Submitted args → r.timeout = args.timeout

section NextLimit

variable {slack : Nat} {limit : Option TimeLimit} {c c' : Client H} {now now' : Int}

theorem nextLimit_of_none {e : Event H ⊕ Nat}
    (h : c'.running.bind (·.expiresAfter) = none) :
    nextLimit slack limit (c, now) e (c', now') = none := by
  simp only [nextLimit, h]

/-- Only a completion of the running request makes a difference. -/
theorem nextLimit_of_some {e : Event H ⊕ Nat} {timeout : Int}
    (h : c'.running.bind (·.expiresAfter) = some timeout)
    (hstale : ∀ op completion, e = .inl (.complete op completion) →
      c.isCurrentRequest op.generation = false) :
    nextLimit slack limit (c, now) e (c', now') = limit := by
  simp only [nextLimit, h]
  split
  · rename_i op completion
    rw [hstale op completion rfl]
    rfl
  · rfl

theorem nextLimit_complete {op : Op} {completion : Completion} {timeout : Int}
    (h : c'.running.bind (·.expiresAfter) = some timeout)
    (hcurrent : c.isCurrentRequest op.generation = true) :
    nextLimit slack limit (c, now) (.inl (.complete op completion)) (c', now') =
      some (.begin slack now timeout limit) := by
  simp only [nextLimit, h, hcurrent]
  rfl

/-- The expiry of a request that waits is kept. -/
theorem Running.OnTime.keep {r : Running} {operation : Operation} {e : Event H ⊕ Nat}
    (h : r.OnTime slack operation limit now) (hrunning : c'.running = some r)
    (hstale : ∀ op completion, e = .inl (.complete op completion) →
      c.isCurrentRequest op.generation = false)
    (hnow : ∀ l, limit = some l → operation.stage ≠ 0 → l.InTime slack now →
      l.InTime slack now') :
    r.OnTime slack operation (nextLimit slack limit (c, now) e (c', now')) now' where
  outstanding := h.outstanding
  resolving := fun hstage => by
    obtain ⟨hexpires, -⟩ := h.resolving hstage
    exact ⟨hexpires, nextLimit_of_none (by rw [hrunning]; exact hexpires)⟩
  limited := fun hstage htimeout => by
    obtain ⟨l, hl, hin, hexpires, hbudget⟩ := h.limited hstage htimeout
    refine ⟨l, ?_, hnow l hl hstage hin, hexpires, hbudget⟩
    rw [nextLimit_of_some (by rw [hrunning]; exact hexpires) hstale]
    exact hl

/-- The next operation of a request gets an expiry. -/
theorem Running.OnTime.next {r : Running} {operation : Operation} {next : Operation} {op : Op}
    {completion : Completion} (h : r.OnTime slack operation limit now)
    (hcurrent : c.isCurrentRequest op.generation = true)
    (hstage : next.stage = operation.stage + 1)
    (hrunning : c'.running = some { r with
      expiresAfter := if 0 < r.timeout then some r.timeout else r.expiresAfter
      outstanding := [next] }) :
    Running.OnTime slack { r with
      expiresAfter := if 0 < r.timeout then some r.timeout else r.expiresAfter
      outstanding := [next] } next
      (nextLimit slack limit (c, now) (.inl (.complete op completion)) (c', now)) now where
  outstanding := rfl
  resolving := fun hzero => absurd hzero (by omega)
  limited := fun _ htimeout => by
    have htimeout : 0 < r.timeout := htimeout
    have hexpires : c'.running.bind (·.expiresAfter) = some r.timeout := by
      rw [hrunning]
      exact if_pos htimeout
    rw [nextLimit_complete hexpires hcurrent]
    have hle : 0 ≤ r.timeout := Int.le_of_lt htimeout
    have hadd : ((operation.stage + 1 : Nat) : Int) * (r.timeout + slack) =
        operation.stage * (r.timeout + slack) + (r.timeout + slack) := by
      rw [Int.natCast_add, Int.add_mul]
      omega
    refine ⟨_, rfl, ?_, if_pos htimeout, ?_⟩
    · by_cases hzero : operation.stage = 0
      · rw [(h.resolving hzero).2]
        exact .start hle
      · obtain ⟨l, hl, hin, -⟩ := h.limited hzero htimeout
        rw [hl]
        exact hin.next hle
    · rw [hstage, hadd]
      by_cases hzero : operation.stage = 0
      · rw [(h.resolving hzero).2, hzero]
        simp [TimeLimit.begin, TimeLimit.start]
      · obtain ⟨l, hl, -, -, hbudget⟩ := h.limited hzero htimeout
        rw [hl, ← hbudget]
        rfl

end NextLimit

/-! ## Runs -/

namespace Timely

variable {slack : Nat} {limit : Option TimeLimit} {c c' : Client H} {now : Int}

/-- The clock stands still while a callback runs. -/
theorem callback (h : Timely preparePayload slack c now limit) {e : Event H}
    (he : step preparePayload c e = some c') :
    Timely preparePayload slack c' now
      (nextLimit slack limit (c, now) (.inl e) (c', now)) := by
  have hspec := h.answering.step_spec he
  refine ⟨h.answering.step he, ?_, ?_⟩
  · intro r' hr'
    cases hspec with
    | unaffected hstale hrunning _ _ =>
      obtain ⟨operation, honTime⟩ := h.onTime r' (hrunning ▸ hr')
      refine ⟨operation, honTime.keep hr' ?_ fun l _ _ hin => hin⟩
      intro op completion heq
      exact hstale op completion (Sum.inl.inj heq)
    | ended hrunning _ => cases hrunning.symm.trans hr'
    | began hrunning _ =>
      cases hrunning.symm.trans hr'
      refine ⟨_, rfl, fun _ => ⟨rfl, ?_⟩, fun hstage => absurd rfl hstage⟩
      exact nextLimit_of_none (by rw [hrunning]; rfl)
    | @next op _ _ r next hcurrent hfrom hop hstage hrunning _ =>
      cases hrunning.symm.trans hr'
      obtain ⟨operation, honTime⟩ := h.onTime r hfrom
      obtain rfl : op.operation = operation :=
        List.singleton_inj.mp (hop.symm.trans honTime.outstanding)
      exact ⟨next, honTime.next hcurrent hstage hrunning⟩
  · intro r' args hr' hargs
    cases hspec with
    | unaffected _ hrunning _ hkept => exact h.timeout r' args (hrunning ▸ hr') (hkept args hargs)
    | ended hrunning _ => cases hrunning.symm.trans hr'
    | began hrunning honly =>
      cases hrunning.symm.trans hr'
      rw [honly args hargs]
    | @next op _ _ r _ _ hfrom _ _ hrunning hkept =>
      cases hrunning.symm.trans hr'
      exact h.timeout r args hfrom (hkept args hargs)

/-- Time passes. -/
theorem pass (h : Timely preparePayload slack c now limit) {duration : Nat}
    (hpunctual : punctual slack ((c, now), limit) (.inr duration)) :
    Timely preparePayload slack c (now + duration)
      (nextLimit slack limit (c, now) (.inr duration) (c, now + duration)) := by
  refine ⟨h.answering, ?_, h.timeout⟩
  intro r hr
  obtain ⟨operation, honTime⟩ := h.onTime r hr
  refine ⟨operation, honTime.keep hr (fun op completion heq => by cases heq) ?_⟩
  intro l hl hstage hin
  obtain ⟨-, rfl⟩ := Client.eq_of_running hr
  have hout : c.outstanding = [operation] := honTime.outstanding
  have hmem : operation ∈ c.outstanding := by
    rw [hout]
    exact List.mem_singleton_self operation
  exact hin.advance ((hpunctual l hl operation hmem).resolve_left hstage)

/-- One step preserves `Timely`. -/
theorem step {s s' : (Client H × Int) × Option TimeLimit} {e : Event H ⊕ Nat}
    (h : Timely preparePayload slack s.1.1 s.1.2 s.2) (hok : punctual slack s e)
    (he : (timedSystem H preparePayload slack).step s e = some s') :
    Timely preparePayload slack s'.1.1 s'.1.2 s'.2 := by
  obtain ⟨⟨c, now⟩, limit⟩ := s
  obtain ⟨⟨c', now'⟩, limit'⟩ := s'
  obtain ⟨hclock, rfl⟩ := System.record_eq_some he
  cases e with
  | inl e =>
    obtain ⟨hstep, rfl⟩ := System.clocked_eq_some hclock
    exact h.callback hstep
  | inr duration =>
    cases hclock
    exact h.pass hok

end Timely

theorem timely_of_reachable {slack : Nat} {s : (Client H × Int) × Option TimeLimit}
    (hr : Reachable (timedSystem H preparePayload slack) (punctual slack) s) :
    Timely preparePayload slack s.1.1 s.1.2 s.2 := by
  refine hr.invariant (I := fun s => Timely preparePayload slack s.1.1 s.1.2 s.2) ?_
    fun s e s' h hok he => h.step hok he
  rintro ⟨⟨c, now⟩, limit⟩ ⟨hinit, hlimit⟩
  obtain rfl : c = Client.create := hinit
  refine ⟨.init, fun r hr => ?_, fun r _ hr => ?_⟩
  · cases hr
  · cases hr

/-! ## From the resolve on -/

/-- `request_generation` is only incremented. -/
theorem StepSpec.requestGeneration_le {c c' : Client H} {e : Event H} (h : StepSpec c e c') :
    c.requestGeneration ≤ c'.requestGeneration := by
  cases h with
  | unaffected _ _ hgeneration _ => exact Nat.le_of_eq hgeneration.symm
  | ended _ hgeneration => exact hgeneration
  | began hrunning _ =>
    have heq := congrArg Running.generation (Client.eq_of_running hrunning).2
    exact Nat.le_of_succ_le (Nat.le_of_eq heq)
  | next _ hfrom _ _ hrunning _ =>
    have hbefore := congrArg Running.generation (Client.eq_of_running hfrom).2
    have hafter := congrArg Running.generation (Client.eq_of_running hrunning).2
    exact Nat.le_of_eq (hbefore.symm.trans hafter)

/-- The request of generation `g`, if it runs, was resolved at `resolved`. -/
structure Resolved (g : Nat) (timeout resolved : Int) (c : Client H) (limit : Option TimeLimit) :
    Prop where
  generation : g ≤ c.requestGeneration
  running : ∀ r, c.running = some r → r.generation = g → r.timeout = timeout ∧
    (∀ operation, r.outstanding = [operation] → operation.stage ≠ 0) ∧
    ∃ l, limit = some l ∧ l.since = resolved

/-- The resolve of a request completes. -/
theorem Timely.resolved {slack : Nat} {limit : Option TimeLimit} {c c' : Client H} {now : Int}
    (h : Timely preparePayload slack c now limit) {args : RequestArgs H} {op : Op}
    {completion : Completion} (hargs : c.Submitted args) (htimeout : 0 < args.timeout)
    (hcurrent : c.isCurrentRequest op.generation = true) (hresolve : op.operation.stage = 0)
    (he : HttpsClientAsync.step preparePayload c (.complete op completion) = some c') :
    Resolved op.generation args.timeout now c'
      (nextLimit slack limit (c, now) (.inl (.complete op completion)) (c', now)) := by
  have hspec := h.answering.step_spec he
  have hle := hspec.requestGeneration_le
  have hgeneration : op.generation ≤ c.requestGeneration := by
    simp only [Client.isCurrentRequest, Bool.and_eq_true, decide_eq_true_eq] at hcurrent
    exact Nat.le_of_eq hcurrent.2
  cases hspec with
  | unaffected hstale _ _ _ => cases (hstale op completion rfl).symm.trans hcurrent
  | ended hrunning _ =>
    exact ⟨Nat.le_trans hgeneration hle, fun r hr => by cases hrunning.symm.trans hr⟩
  | @next _ _ _ r next _ hfrom hop hstage hrunning _ =>
    refine ⟨Nat.le_trans hgeneration hle, fun r' hr' _ => ?_⟩
    cases hrunning.symm.trans hr'
    have heq : r.timeout = args.timeout := h.timeout r args hfrom hargs
    refine ⟨heq, ?_, .start slack now r.timeout, ?_, rfl⟩
    · intro operation hout
      cases hout
      omega
    · -- the resolve is the operation that was outstanding, so the stream had no expiry
      obtain ⟨operation, honTime⟩ := h.onTime r hfrom
      obtain rfl : op.operation = operation :=
        List.singleton_inj.mp (hop.symm.trans honTime.outstanding)
      obtain ⟨-, rfl⟩ := honTime.resolving hresolve
      refine nextLimit_complete ?_ hcurrent
      rw [hrunning]
      exact if_pos (heq ▸ htimeout)

namespace Resolved

variable {g slack : Nat} {timeout resolved : Int} {c c' : Client H} {now now' : Int}
  {limit : Option TimeLimit}

/-- Nothing happens that is of consequence to the request. -/
theorem keep (h : Resolved g timeout resolved c limit) (htimeout : 0 < timeout)
    (htimely : Timely preparePayload slack c now limit) {e : Event H ⊕ Nat}
    (hrunning : c'.running = c.running) (hgeneration : c'.requestGeneration = c.requestGeneration)
    (hstale : ∀ op completion, e = .inl (.complete op completion) →
      c.isCurrentRequest op.generation = false) :
    Resolved g timeout resolved c' (nextLimit slack limit (c, now) e (c', now')) where
  generation := hgeneration ▸ h.generation
  running := fun r hr hg => by
    obtain ⟨heq, hstage, l, hl, hsince⟩ := h.running r (hrunning ▸ hr) hg
    obtain ⟨operation, honTime⟩ := htimely.onTime r (hrunning ▸ hr)
    obtain ⟨-, -, -, hexpires, -⟩ :=
      honTime.limited (hstage operation honTime.outstanding) (heq ▸ htimeout)
    refine ⟨heq, hstage, l, ?_, hsince⟩
    rw [nextLimit_of_some (by rw [hr]; exact hexpires) hstale]
    exact hl

theorem callback (h : Resolved g timeout resolved c limit) (htimeout : 0 < timeout)
    (htimely : Timely preparePayload slack c now limit) {e : Event H}
    (he : step preparePayload c e = some c') :
    Resolved g timeout resolved c' (nextLimit slack limit (c, now) (.inl e) (c', now)) := by
  have hspec := htimely.answering.step_spec he
  have hle := Nat.le_trans h.generation hspec.requestGeneration_le
  cases hspec with
  | unaffected hstale hrunning hgeneration _ =>
    refine h.keep htimeout htimely hrunning hgeneration ?_
    intro op completion heq
    exact hstale op completion (Sum.inl.inj heq)
  | ended hrunning _ => exact ⟨hle, fun r hr => by cases hrunning.symm.trans hr⟩
  | began hrunning _ =>
    refine ⟨hle, fun r hr hg => ?_⟩
    cases hrunning.symm.trans hr
    have hgeneration := h.generation
    simp only at hg
    omega
  | @next op _ _ r next hcurrent hfrom hop hstage hrunning _ =>
    refine ⟨hle, fun r' hr' hg => ?_⟩
    cases hrunning.symm.trans hr'
    obtain ⟨heq, -, l, rfl, hsince⟩ := h.running r hfrom hg
    refine ⟨heq, ?_, l.next slack now r.timeout, ?_, hsince⟩
    · intro operation hout
      cases hout
      omega
    · have hpos : 0 < r.timeout := heq ▸ htimeout
      have hexpires : c'.running.bind (·.expiresAfter) = some r.timeout := by
        rw [hrunning]
        exact if_pos hpos
      exact nextLimit_complete hexpires hcurrent

/-- One step preserves `Resolved`. -/
theorem step {s s' : (Client H × Int) × Option TimeLimit} {e : Event H ⊕ Nat}
    (h : Resolved g timeout resolved s.1.1 s.2) (htimeout : 0 < timeout)
    (htimely : Timely preparePayload slack s.1.1 s.1.2 s.2)
    (he : (timedSystem H preparePayload slack).step s e = some s') :
    Resolved g timeout resolved s'.1.1 s'.2 := by
  obtain ⟨⟨c, now⟩, limit⟩ := s
  obtain ⟨⟨c', now'⟩, limit'⟩ := s'
  obtain ⟨hclock, rfl⟩ := System.record_eq_some he
  cases e with
  | inl e =>
    obtain ⟨hstep, rfl⟩ := System.clocked_eq_some hclock
    exact h.callback htimeout htimely hstep
  | inr duration =>
    cases hclock
    exact h.keep (e := .inr duration) htimeout htimely rfl rfl fun op completion heq => by cases heq

end Resolved

/-- **A request ends in time.** For every order of `request()` and `cancel()` calls,
completions and passing time in which an operation on the stream is outstanding for at
most `slack` after the stream has expired: the request whose resolve completes in `s`
has, as long as it runs, one operation outstanding, and it is within as many timeouts
of its call, each `slack` longer, as operations on the stream have been started. So it is
over at most four of them after the host was resolved. -/
theorem request_ends_in_time {slack : Nat} {s s₁ t : (Client H × Int) × Option TimeLimit}
    {args : RequestArgs H} {op : Op} {completion : Completion}
    (hr : Reachable (timedSystem H preparePayload slack) (punctual slack) s)
    (hargs : .submitted s.1.1.current args .idle ∈ s.1.1.trace) (htimeout : 0 < args.timeout)
    (hcurrent : s.1.1.isCurrentRequest op.generation = true)
    (hresolve : op.operation.stage = 0)
    (hstep : (timedSystem H preparePayload slack).step s (.inl (.complete op completion)) = some s₁)
    (hpath : Path (timedSystem H preparePayload slack) (punctual slack) s₁ t)
    (hruns : t.1.1.isCurrentRequest op.generation = true) :
    ∃ operation, t.1.1.outstanding = [operation] ∧ 0 < operation.stage ∧ operation.stage ≤ 4 ∧
      t.1.2 ≤ s.1.2 + operation.stage * (args.timeout + slack) := by
  obtain ⟨⟨c', now'⟩, limit'⟩ := s₁
  obtain ⟨hclock, rfl⟩ := System.record_eq_some hstep
  obtain ⟨hcallback, rfl⟩ := System.clocked_eq_some hclock
  have hcallback : step preparePayload s.1.1 (.complete op completion) = some c' := hcallback
  have hresolved := (timely_of_reachable hr).resolved hargs htimeout hcurrent hresolve hcallback
  have hboth := hpath.invariant
    (I := fun t => Timely preparePayload slack t.1.1 t.1.2 t.2 ∧
      Resolved op.generation args.timeout s.1.2 t.1.1 t.2)
    (fun u e u' h hok he => ⟨h.1.step hok he, h.2.step htimeout h.1 he⟩)
    ⟨(timely_of_reachable hr).callback hcallback, hresolved⟩
  obtain ⟨htimely, hresolved⟩ := hboth
  have hin : t.1.1.state = .inProgress := by
    simp only [Client.isCurrentRequest, Bool.and_eq_true, decide_eq_true_eq] at hruns
    exact hruns.1
  have hrunning := Client.running_eq hin
  have hgeneration := (Client.isCurrentRequest_of_running hrunning).mp hruns
  obtain ⟨htimeoutEq, hstage, l, hl, hsince⟩ := hresolved.running _ hrunning hgeneration
  obtain ⟨operation, honTime⟩ := htimely.onTime _ hrunning
  have hstage := hstage operation honTime.outstanding
  obtain ⟨l', hl', hinTime, -, hbudget⟩ := honTime.limited hstage (htimeoutEq ▸ htimeout)
  obtain rfl : l = l' := Option.some.inj (hl.symm.trans hl')
  have helapsed := hinTime.elapsed_le
  rw [hsince, hbudget, htimeoutEq] at helapsed
  exact ⟨operation, honTime.outstanding, Nat.pos_of_ne_zero hstage, operation.stage_le, helapsed⟩

/-- The resolve of `getRoot`, of the first request of a client. -/
def resolveRoot : Op := ⟨1, .resolve "localhost" "443", some 0, ⟨1, 1, 1⟩⟩

/-- Resolving takes longer than the timeout, and connecting as long as it may. -/
theorem request_ends_in_time_slowServer :
    ∃ s t : (Client Nat × Int) × Option TimeLimit, s.1.2 = 50000 ∧ t.1.2 = 80025 ∧
      ∃ operation, t.1.1.outstanding = [operation] ∧ 0 < operation.stage ∧ operation.stage ≤ 4 ∧
        t.1.2 ≤ s.1.2 + operation.stage * ((getRoot 0).timeout + (5 : Nat)) := by
  have hany : (run (timedSystem Nat id 5) (punctual 5) ((Client.create, 0), none)
      [.inl (.request (getRoot 0)), .inr 50000]).any (fun s =>
        (Obs.submitted s.1.1.current (getRoot 0) .idle ∈ s.1.1.trace ∧
          s.1.1.isCurrentRequest resolveRoot.generation = true ∧ s.1.2 = 50000) ∧
        ((timedSystem Nat id 5).step s
          (.inl (.complete resolveRoot { results := [7] }))).any (fun s₁ =>
            (run (timedSystem Nat id 5) (punctual 5) s₁
              [.inr 30005, .inl (.complete ⟨1, .connect [7], some 0, ⟨1, 1, 1⟩⟩ {}),
                .inr 20]).any fun t =>
              t.1.1.isCurrentRequest resolveRoot.generation = true ∧ t.1.2 = 80025)) = true := by
    decide
  obtain ⟨s, hbefore, hs⟩ := (Option.any_eq_true _ _).mp hany
  obtain ⟨⟨hargs, hcurrent, hresolved⟩, hs⟩ := of_decide_eq_true hs
  obtain ⟨s₁, hstep, hs₁⟩ := (Option.any_eq_true _ _).mp hs
  obtain ⟨t, hafter, ht⟩ := (Option.any_eq_true _ _).mp hs₁
  obtain ⟨hruns, hnow⟩ := of_decide_eq_true ht
  have hr : Reachable (timedSystem Nat id 5) (punctual 5) s :=
    ⟨((Client.create, 0), none), ⟨rfl, rfl⟩, Path.of_run _ hbefore⟩
  exact ⟨s, t, hresolved, hnow, request_ends_in_time hr hargs (by decide) hcurrent rfl hstep
    (Path.of_run _ hafter) hruns⟩

end CppComponents.HttpsClientAsync
