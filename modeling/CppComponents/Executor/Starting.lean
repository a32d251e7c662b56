import CppComponents.Executor.Lifecycle

/-!
# Starting an executor, and controlling its thread

`start()` may be called by any number of threads. The exchange of
`is_start_called` picks one of them, and what becomes of that call is final: the
thread is created by it or never. The functions that control the thread look at
`is_started` and `is_stopping` only; `is_started` is the last thing a successful
`start()` stores, so a control function that passes its checks has a thread handle
to use, and a thread that is not joined before a later `stop()`.

`Born` is the invariant of that part of the state. It holds for every interleaving,
also of `start()` with `stop()`. The header allows no such overlap, and what has to
do with `stop()` is proved without it (`usedApart`).
-/

namespace CppComponents.Executor.Lifecycle

open CppComponents.Transition

/-- In the part of `start()` after the exchange: has the thread been created? -/
def CallPc.birth : CallPc → Option Bool
  | .eventfd | .assign _ | .arm | .startWait | .createThread => some false
  | .setHandle | .publish => some true
  | _ => none

def CallPc.inStart (pc : CallPc) : Bool := pc = .exchange ∨ pc.birth.isSome

/-- In a function that controls the thread, past the load of `is_started`. -/
def CallPc.control : CallPc → Option Control
  | .loadStopping op | .pthread op => some op
  | _ => none

theorem CallPc.control_of_birth {pc : CallPc} {b : Bool} (h : pc.birth = some b) :
    pc.control = none := by
  cases pc <;> first | rfl | cases h

/-- Anywhere else. -/
def CallPc.plain (pc : CallPc) : Bool :=
  pc.birth = none ∧ pc.control = none ∧ pc ≠ .exchange

variable {ι κ : Type} [DecidableEq ι] [DecidableEq κ]

/-- What `start()` has done so far. -/
structure Born (maxPriority : Int) (s : State ι κ) : Prop where
  unique : ∀ c c' b b', (s.call c).birth = some b → (s.call c').birth = some b' → c = c'
  birth : ∀ c b, (s.call c).birth = some b →
    s.isStartCalled = true ∧ s.isStarted = false ∧ s.executor.isSome = b
  handle : ∀ c, s.call c = .publish → s.threadHandle = true
  started : s.isStarted = true → s.executor.isSome = true ∧ s.threadHandle = true
  control : ∀ c op, (s.call c).control = some op →
    s.isStarted = true ∧ op.outOfRange maxPriority = false
  created : s.executor.isSome = true → s.isStartCalled = true
  followed : s.executor.isSome = true → s.isStarted = true ∨ ∃ c, (s.call c).birth = some true
  object : s.thread = .notCreated ↔ s.executor = none
  joined : s.thread = .joined → s.executor = some .exited

/-! ## Steps that start nothing -/

variable {maxPriority : Int} {s s' : State ι κ} {c : Caller ι} {pc : CallPc}

omit [DecidableEq κ] in
theorem State.call_setCall (s : State ι κ) (c : Caller ι) (pc : CallPc) (c' : Caller ι) :
    (s.setCall c pc).call c' = if c' = c then pc else s.call c' := Function.update_apply ..

omit [DecidableEq κ] in
theorem State.call_ret (s : State ι κ) (c : Caller ι) (r : Returned) (c' : Caller ι) :
    (s.ret c r).call c' = if c' = c then .idle else s.call c' := Function.update_apply ..

/-- The executor thread takes a step, or none. -/
def Runs (s s' : State ι κ) : Prop :=
  s'.executor = s.executor ∨
    s.executor ≠ none ∧ s.executor ≠ some .exited ∧ s'.executor ≠ none

omit [DecidableEq ι] [DecidableEq κ] in
theorem Runs.isSome (h : Runs s s') : s'.executor.isSome = s.executor.isSome := by
  rcases h with h | ⟨hs, -, hs'⟩
  · rw [h]
  · rw [Option.isSome_iff_ne_none.mpr hs, Option.isSome_iff_ne_none.mpr hs']

/-- A step that leaves what `start()` does: a call moves between places outside of it,
or the executor thread takes a step. -/
structure Elsewhere (maxPriority : Int) (s s' : State ι κ) : Prop where
  startCalled : s'.isStartCalled = s.isStartCalled
  started : s'.isStarted = s.isStarted
  handle : s'.threadHandle = s.threadHandle
  thread : s'.thread = s.thread
  runs : Runs s s'
  call : ∀ c, s'.call c = s.call c ∨ (s'.call c).birth = none ∧
    (∀ op, (s'.call c).control = some op →
      s.isStarted = true ∧ op.outOfRange maxPriority = false) ∧
    (s'.call c = .exchange → s.isStopping = false)
  kept : ∀ c, (s.call c).birth = some true → s'.call c = s.call c

omit [DecidableEq ι] [DecidableEq κ] in
/-- What happens elsewhere leaves the exchange of `start()` as won as it was. -/
theorem Born.elsewhere (h : Born maxPriority s) (hstep : Elsewhere maxPriority s s') :
    Born maxPriority s' := by
  have hbirth : ∀ c b, (s'.call c).birth = some b → (s.call c).birth = some b := by
    intro c b hb
    rcases hstep.call c with heq | ⟨hnone, -⟩
    · rw [← heq]
      exact hb
    · rw [hnone] at hb
      cases hb
  refine ⟨fun c c' b b' hb hb' => h.unique c c' b b' (hbirth c b hb) (hbirth c' b' hb'), ?_, ?_, ?_,
    ?_, ?_, ?_, ?_, ?_⟩
  · intro c b hb
    rw [hstep.startCalled, hstep.started, hstep.runs.isSome]
    exact h.birth c b (hbirth c b hb)
  · intro c hc
    rw [hstep.handle]
    rcases hstep.call c with heq | ⟨hnone, -⟩
    · exact h.handle c (heq ▸ hc)
    · rw [hc] at hnone
      cases hnone
  · intro hstarted
    rw [hstep.runs.isSome, hstep.handle]
    exact h.started (hstep.started ▸ hstarted)
  · intro c op hc
    rw [hstep.started]
    rcases hstep.call c with heq | ⟨-, hcontrol, -⟩
    · exact h.control c op (heq ▸ hc)
    · exact hcontrol op hc
  · intro hsome
    rw [hstep.startCalled]
    exact h.created (hstep.runs.isSome ▸ hsome)
  · intro hsome
    rw [hstep.started]
    rcases h.followed (hstep.runs.isSome ▸ hsome) with hstarted | ⟨c, hc⟩
    · exact .inl hstarted
    · exact .inr ⟨c, by rw [hstep.kept c hc, hc]⟩
  · rw [hstep.thread, h.object, ← Option.not_isSome_iff_eq_none, ← Option.not_isSome_iff_eq_none,
      hstep.runs.isSome]
  · intro hjoined
    have hexited := h.joined (hstep.thread ▸ hjoined)
    rcases hstep.runs with heq | ⟨-, hnot, -⟩
    · rw [heq, hexited]
    · exact absurd hexited hnot

/-- The part of the state this is about. -/
def State.core (s : State ι κ) :=
  (s.isStartCalled, s.isStarted, s.threadHandle, s.thread, s.executor, s.call)

omit [DecidableEq ι] [DecidableEq κ] in
/-- `Elsewhere` looks at the core of the state only. -/
theorem Elsewhere.congr {t : State ι κ} (h : Elsewhere maxPriority s t) (hcore : s'.core = t.core) :
    Elsewhere maxPriority s s' := by
  simp only [State.core, Prod.mk.injEq] at hcore
  obtain ⟨hcalled, hstarted, hhandle, hthread, hexecutor, hcall⟩ := hcore
  refine ⟨hcalled.trans h.startCalled, hstarted.trans h.started, hhandle.trans h.handle,
    hthread.trans h.thread, ?_, ?_, ?_⟩
  · rw [Runs, hexecutor]
    exact h.runs
  · rw [hcall]
    exact h.call
  · rw [hcall]
    exact h.kept

omit [DecidableEq ι] [DecidableEq κ] in
theorem Elsewhere.refl (s : State ι κ) : Elsewhere maxPriority s s :=
  ⟨rfl, rfl, rfl, rfl, .inl rfl, fun _ => .inl rfl, fun _ _ => rfl⟩

omit [DecidableEq κ] in
/-- A caller that moves outside the winning branch of `start()` does it elsewhere. -/
theorem Elsewhere.setCall_of (s : State ι κ) (c : Caller ι) {pc : CallPc}
    (hfrom : (s.call c).birth ≠ some true) (hbirth : pc.birth = none)
    (hcontrol : ∀ op, pc.control = some op →
      s.isStarted = true ∧ op.outOfRange maxPriority = false)
    (hexchange : pc = .exchange → s.isStopping = false) :
    Elsewhere maxPriority s (s.setCall c pc) where
  startCalled := rfl
  started := rfl
  handle := rfl
  thread := rfl
  runs := .inl rfl
  call c' := by
    rw [State.call_setCall]
    split
    · exact .inr ⟨hbirth, hcontrol, hexchange⟩
    · exact .inl rfl
  kept c' hc' := by
    rw [State.call_setCall, if_neg]
    rintro rfl
    exact hfrom hc'

omit [DecidableEq κ] in
/-- A call moves to a place outside of `start()`. -/
theorem Elsewhere.setCall (s : State ι κ) (c : Caller ι) {pc : CallPc}
    (hfrom : (s.call c).birth ≠ some true) (hplain : pc.plain = true) :
    Elsewhere maxPriority s (s.setCall c pc) := by
  obtain ⟨hbirth, hcontrol, hexchange⟩ :
      pc.birth = none ∧ pc.control = none ∧ pc ≠ .exchange := by simpa [CallPc.plain] using hplain
  exact .setCall_of s c hfrom hbirth (fun _ h => by simp [hcontrol] at h) fun h =>
    absurd h hexchange

omit [DecidableEq ι] [DecidableEq κ] in
/-- The executor thread takes a step. -/
theorem Elsewhere.executor {pc : ExecutorPc} (hpc : s.executor = some pc) (hexited : pc ≠ .exited)
    (pc' : ExecutorPc) : Elsewhere maxPriority s { s with executor := some pc' } where
  startCalled := rfl
  started := rfl
  handle := rfl
  thread := rfl
  runs := by
    refine .inr ⟨by simp [hpc], fun h => hexited ?_, by simp⟩
    exact Option.some.inj (hpc.symm.trans h)
  call _ := .inl rfl
  kept _ _ := rfl

/-! ## The steps of `start()` -/

omit [DecidableEq ι] [DecidableEq κ] in
theorem Born.congr {t : State ι κ} (hcore : s'.core = t.core) (h : Born maxPriority t) :
    Born maxPriority s' :=
  h.elsewhere ((Elsewhere.refl t).congr hcore)

omit [DecidableEq κ] in
/-- The call that starts the executor moves on. -/
theorem Born.moves (h : Born maxPriority s) {b : Bool} (hc : (s.call c).birth = some b)
    (hpc : pc.birth = some b) (hpublish : pc ≠ .publish) : Born maxPriority (s.setCall c pc) := by
  have hbirth : ∀ c' b', ((s.setCall c pc).call c').birth = some b' →
      (s.call c').birth = some b' := by
    intro c' b' hb'
    rw [State.call_setCall] at hb'
    split at hb'
    · rename_i heq
      rw [heq, hc, ← hb', hpc]
    · exact hb'
  refine ⟨fun c₁ c₂ b₁ b₂ h₁ h₂ => h.unique c₁ c₂ b₁ b₂ (hbirth c₁ b₁ h₁) (hbirth c₂ b₂ h₂),
    fun c₁ b₁ h₁ => h.birth c₁ b₁ (hbirth c₁ b₁ h₁), ?_, h.started, ?_, h.created, ?_, h.object,
    h.joined⟩
  · intro c' hc'
    rw [State.call_setCall] at hc'
    split at hc'
    · exact absurd hc' hpublish
    · exact h.handle c' hc'
  · intro c' op hc'
    rw [State.call_setCall] at hc'
    split at hc'
    · rw [CallPc.control_of_birth hpc] at hc'
      cases hc'
    · exact h.control c' op hc'
  · intro hsome
    rcases h.followed hsome with hstarted | ⟨c', hc'⟩
    · exact .inl hstarted
    · refine .inr ⟨c', ?_⟩
      rw [State.call_setCall]
      split
      · rename_i heq
        rw [hpc, ← hc, ← heq, hc']
      · exact hc'

omit [DecidableEq κ] in
/-- The exchange of `is_start_called` picks a call. -/
theorem Born.first (h : Born maxPriority s) (hcalled : s.isStartCalled = false)
    (hpc : pc.birth = some false) :
    Born maxPriority ({ s with isStartCalled := true }.setCall c pc) := by
  -- nobody was picked before
  have hnone : ∀ c', (s.call c').birth = none := by
    intro c'
    cases hb : (s.call c').birth with
    | none => rfl
    | some b => exact absurd (h.birth c' b hb).1 (by simp [hcalled])
  have hexecutor : s.executor.isSome = false := by
    cases hsome : s.executor.isSome with
    | false => rfl
    | true => exact absurd (h.created hsome) (by simp [hcalled])
  have hstarted : s.isStarted = false := by
    cases hstarted : s.isStarted with
    | false => rfl
    | true => exact absurd (h.started hstarted).1 (by simp [hexecutor])
  have honly : ∀ c' b, ((({ s with isStartCalled := true } : State ι κ).setCall c pc).call
      c').birth = some b → c' = c ∧ b = false := by
    intro c' b hb
    rw [State.call_setCall] at hb
    split at hb
    · exact ⟨‹_›, Option.some.inj (hb.symm.trans hpc)⟩
    · rw [hnone c'] at hb
      cases hb
  refine ⟨fun c₁ c₂ b₁ b₂ h₁ h₂ => (honly c₁ b₁ h₁).1.trans (honly c₂ b₂ h₂).1.symm, ?_, ?_, ?_, ?_,
    fun _ => rfl, fun hsome => by simp [State.setCall, hexecutor] at hsome, h.object, h.joined⟩
  · intro c' b hb
    obtain ⟨-, rfl⟩ := honly c' b hb
    exact ⟨rfl, hstarted, hexecutor⟩
  · intro c' hc'
    rw [State.call_setCall] at hc'
    split at hc'
    · rw [hc'] at hpc
      cases hpc
    · exact h.handle c' hc'
  · exact fun h => absurd h (by simp [State.setCall, hstarted])
  · intro c' op hc'
    rw [State.call_setCall] at hc'
    split at hc'
    · rw [CallPc.control_of_birth hpc] at hc'
      cases hc'
    · exact h.control c' op hc'

omit [DecidableEq κ] in
/-- The thread is created. -/
theorem Born.createThread (h : Born maxPriority s) (hc : s.call c = .createThread) :
    Born maxPriority
      ({ s with thread := .joinable, executor := some .polling }.setCall c .setHandle) := by
  have hbirth := h.birth c false (by rw [hc]; rfl)
  have honly : ∀ c' b, ((({ s with thread := .joinable, executor := some .polling } :
      State ι κ).setCall c .setHandle).call c').birth = some b → c' = c ∧ b = true := by
    intro c' b hb
    rw [State.call_setCall] at hb
    split at hb
    · exact ⟨‹_›, (Option.some.inj hb).symm⟩
    · rename_i hne
      exact absurd (h.unique c' c b false hb (by rw [hc]; rfl)) hne
  refine ⟨fun c₁ c₂ b₁ b₂ h₁ h₂ => (honly c₁ b₁ h₁).1.trans (honly c₂ b₂ h₂).1.symm, ?_, ?_, ?_, ?_,
    fun _ => hbirth.1, fun _ => .inr ⟨c, by simp [State.setCall, CallPc.birth]⟩,
    by simp [State.setCall], by simp [State.setCall]⟩
  · intro c' b hb
    obtain ⟨-, rfl⟩ := honly c' b hb
    exact ⟨hbirth.1, hbirth.2.1, rfl⟩
  · intro c' hc'
    rw [State.call_setCall] at hc'
    split at hc'
    · cases hc'
    · exact h.handle c' hc'
  · exact fun h => absurd h (by simp [State.setCall, hbirth.2.1])
  · intro c' op hc'
    rw [State.call_setCall] at hc'
    split at hc'
    · cases hc'
    · exact h.control c' op hc'

omit [DecidableEq κ] in
/-- `thread_handle` is assigned. -/
theorem Born.setHandle (h : Born maxPriority s) (hc : s.call c = .setHandle) :
    Born maxPriority ({ s with threadHandle := true }.setCall c .publish) := by
  have hbirth := h.birth c true (by rw [hc]; rfl)
  have hback : ∀ c' b, ((({ s with threadHandle := true } : State ι κ).setCall c .publish).call
      c').birth = some b → (s.call c').birth = some b := by
    intro c' b hb
    rw [State.call_setCall] at hb
    split at hb
    · rename_i heq
      rw [heq, hc]
      exact hb
    · exact hb
  refine ⟨fun c₁ c₂ b₁ b₂ h₁ h₂ => h.unique c₁ c₂ b₁ b₂ (hback c₁ b₁ h₁) (hback c₂ b₂ h₂),
    fun c' b hb => h.birth c' b (hback c' b hb), fun _ _ => rfl, ?_, ?_, h.created,
    fun _ => .inr ⟨c, by simp [State.setCall, CallPc.birth]⟩, h.object, h.joined⟩
  · exact fun hstarted => ⟨(h.started hstarted).1, rfl⟩
  · intro c' op hc'
    rw [State.call_setCall] at hc'
    split at hc'
    · cases hc'
    · exact h.control c' op hc'

omit [DecidableEq κ] in
/-- `start()` returns success. -/
theorem Born.publish (h : Born maxPriority s) (hc : s.call c = .publish) (r : Returned) :
    Born maxPriority ({ s with isStarted := true }.ret c r) := by
  have hpc : (s.call c).birth = some true := by rw [hc]; rfl
  have hbirth := h.birth c true hpc
  -- no other call is in this part of start()
  have hnone : ∀ c' b, ((({ s with isStarted := true } : State ι κ).ret c r).call c').birth ≠
      some b := by
    intro c' b hb
    rw [State.call_ret] at hb
    split at hb
    · cases hb
    · rename_i hne
      exact hne (h.unique c' c b true hb hpc)
  refine ⟨fun c₁ _ b₁ _ h₁ _ => absurd h₁ (hnone c₁ b₁), fun c' b hb => absurd hb (hnone c' b), ?_,
    fun _ => ⟨hbirth.2.2, h.handle c hc⟩, ?_, h.created, fun _ => .inl rfl, h.object, h.joined⟩
  · intro c' hc'
    exact absurd (congrArg CallPc.birth hc') (hnone c' true)
  · intro c' op hc'
    rw [State.call_ret] at hc'
    split at hc'
    · cases hc'
    · exact ⟨rfl, (h.control c' op hc').2⟩

omit [DecidableEq ι] [DecidableEq κ] in
/-- The thread that has ended is joined. -/
theorem Born.join (h : Born maxPriority s) (hexited : s.executor = some .exited) :
    Born maxPriority { s with thread := .joined } :=
  ⟨h.unique, h.birth, h.handle, h.started, h.control, h.created, h.followed, by simp [hexited],
    fun _ => hexited⟩

omit [DecidableEq κ] in
theorem stopReturn_core (s : State ι κ) (c : Caller ι) (call : StopCall) :
    (stopReturn s c call).core = (s.setCall c .idle).core := by
  unfold stopReturn
  split <;> rfl

omit [DecidableEq κ] in
theorem controlReturn_core (s : State ι κ) (c : Caller ι) (op : Control) :
    (controlReturn s c op).core = (s.setCall c .idle).core := by
  cases op <;> rfl

omit [DecidableEq ι] [DecidableEq κ] in
/-- Entering a handler moves the thread of `run()` and nothing else of the core. -/
theorem enter_core (s : State ι κ) (h : Handler κ) :
    ∃ pc, (enter s h).core = ({ s with executor := some pc } : State ι κ).core := by
  cases h with
  | callback k => exact ⟨_, rfl⟩
  | cancelDoorbell => exact ⟨_, rfl⟩
  | doorbell ec => cases ec <;> exact ⟨_, rfl⟩

/-- The steps that are part of the start, and the join. -/
inductive Births (s s' : State ι κ) : Prop where
  | first (c : Caller ι) (pc : CallPc) (hc : s.call c = .exchange)
      (hcalled : s.isStartCalled = false) (hpc : pc.birth = some false)
      (hs' : s'.core = ({ s with isStartCalled := true }.setCall c pc).core)
  | moves (c : Caller ι) (pc : CallPc) (b : Bool) (hc : (s.call c).birth = some b)
      (hpc : pc.birth = some b) (hpublish : pc ≠ .publish) (hs' : s'.core = (s.setCall c pc).core)
  | createThread (c : Caller ι) (hc : s.call c = .createThread)
      (hs' : s'.core =
        ({ s with thread := .joinable, executor := some .polling }.setCall c .setHandle).core)
  | setHandle (c : Caller ι) (hc : s.call c = .setHandle)
      (hs' : s'.core = ({ s with threadHandle := true }.setCall c .publish).core)
  | publish (c : Caller ι) (hc : s.call c = .publish)
      (hs' : s' = { s with isStarted := true }.ret c ⟨.start, none, none⟩)
  | join (c : Caller ι) (hc : (s.call c).birth = none) (hexited : s.executor = some .exited)
      (hs' : s'.core = ({ s with thread := .joined }.setCall c .idle).core)

omit [DecidableEq κ] in
/-- The exchange of `start()` is won by the first caller and by nobody after it. -/
theorem Births.born (h : Born maxPriority s) (hstep : Births s s') : Born maxPriority s' := by
  cases hstep with
  | first c pc hc hcalled hpc hs' => exact .congr hs' (h.first hcalled hpc)
  | moves c pc b hc hpc hpublish hs' => exact .congr hs' (h.moves hc hpc hpublish)
  | createThread c hc hs' => exact .congr hs' (h.createThread hc)
  | setHandle c hc hs' => exact .congr hs' (h.setHandle hc)
  | publish c hc hs' =>
    subst hs'
    exact h.publish hc _
  | join c hc hexited hs' =>
    exact .congr hs' ((h.join hexited).elsewhere (.setCall _ c (by simp [hc]) rfl))

omit [DecidableEq ι] [DecidableEq κ] in
/-- A thread that may make a call is in none. -/
theorem State.idle_of_mayCall (h : s.mayCall c) : s.call c = .idle := by
  cases c with
  | thread t => simpa [State.mayCall] using h
  | executor =>
    rw [State.mayCall, decide_eq_true_iff] at h
    exact h.1

/-- A step is part of the start, or it leaves what the start does. -/
theorem StepSpec.births_or_elsewhere {e : Event ι κ} (h : Born maxPriority s)
    (hstep : StepSpec maxPriority s e s') : Births s s' ∨ Elsewhere maxPriority s s' := by
  have hmoves : ∀ c pc, (s.call c).birth ≠ some true → pc.plain = true →
      s'.core = (s.setCall c pc).core → Births s s' ∨ Elsewhere maxPriority s s' :=
    fun c pc hfrom hplain hcore => .inr ((Elsewhere.setCall s c hfrom hplain).congr hcore)
  have hcalled : ∀ {c}, s.mayCall c → (s.call c).birth ≠ some true := by
    intro c hmay
    rw [State.idle_of_mayCall hmay]
    nofun
  cases hstep with
  | startStopped c hmay => exact hmoves c .idle (hcalled hmay) rfl rfl
  | startCalled c hmay hstopping =>
    exact .inr (.setCall_of s c (hcalled hmay) rfl nofun fun _ => hstopping)
  | stopCalled c f call hmay => exact hmoves c (.joinable call) (hcalled hmay) rfl rfl
  | controlRefused c op hmay => exact hmoves c .idle (hcalled hmay) rfl rfl
  | controlCalled c op hmay hrange hstarted =>
    refine .inr (.setCall_of s c (hcalled hmay) rfl (fun op' hop => ?_) nofun)
    obtain rfl : op = op' := Option.some.inj hop
    exact ⟨hstarted, hrange⟩
  | ringArmed c hmay => exact hmoves c .write (hcalled hmay) rfl rfl
  | ringUnarmed c hmay => exact hmoves c .idle (hcalled hmay) rfl rfl
  | startAgain c answer hpc => exact hmoves c .idle (by simp [hpc, CallPc.birth]) rfl rfl
  | startFirst c answer hpc hcalled =>
    refine .inl (.first c _ hpc hcalled ?_ rfl)
    split <;> rfl
  | startFails c errno ec hpc =>
    refine hmoves c .idle ?_ rfl rfl
    generalize s.call c = pc at hpc
    cases hpc <;> nofun
  | eventfd c fd hpc =>
    exact .inl (.moves c (.assign fd) false (by rw [hpc]; rfl) rfl (by simp) rfl)
  | assign c fd answer hpc => exact .inl (.moves c .arm false (by rw [hpc]; rfl) rfl (by simp) rfl)
  | arm c answer hpc => exact .inl (.moves c .startWait false (by rw [hpc]; rfl) rfl (by simp) rfl)
  | startWait c answer hpc =>
    exact .inl (.moves c .createThread false (by rw [hpc]; rfl) rfl (by simp) rfl)
  | createThread c answer hpc => exact .inl (.createThread c hpc rfl)
  | setHandle c answer hpc => exact .inl (.setHandle c hpc rfl)
  | publish c answer hpc => exact .inl (.publish c hpc rfl)
  | notJoinable c answer call hpc =>
    exact hmoves c .idle (by simp [hpc, CallPc.birth]) rfl (stopReturn_core s c call)
  | isJoinable c answer call hpc =>
    refine hmoves c _ (by simp [hpc, CallPc.birth]) ?_ rfl
    split <;> rfl
  | postCancel c answer call hpc =>
    exact hmoves c (.resetWork call) (by simp [hpc, CallPc.birth]) rfl rfl
  | resetWork c answer call hpc =>
    refine hmoves c (if call.isForceStop then .stopContext call else .join call)
      (by simp [hpc, CallPc.birth]) ?_ rfl
    split <;> rfl
  | stopContext c answer call hpc =>
    exact hmoves c (.join call) (by simp [hpc, CallPc.birth]) rfl rfl
  | joinSelf answer call hpc =>
    exact hmoves .executor .idle (by simp [hpc, CallPc.birth]) rfl
      (stopReturn_core s .executor call)
  | joinOther t answer call hpc hexited =>
    exact .inl (.join (.thread t) (by rw [hpc]; rfl) hexited (stopReturn_core _ (.thread t) call))
  | controlStopping c answer op hpc => exact hmoves c .idle (by simp [hpc, CallPc.birth]) rfl rfl
  | controlPassed c answer op hpc =>
    refine .inr (.setCall_of s c (by simp [hpc, CallPc.birth]) rfl (fun op' hop => ?_) nofun)
    obtain rfl : op = op' := Option.some.inj hop
    exact h.control c op (by rw [hpc]; rfl)
  | pthreadFails c errno op hpc => exact hmoves c .idle (by simp [hpc, CallPc.birth]) rfl rfl
  | pthread c answer op hpc =>
    exact hmoves c .idle (by simp [hpc, CallPc.birth]) rfl (controlReturn_core s c op)
  | write c answer hpc => exact hmoves c .idle (by simp [hpc, CallPc.birth]) rfl rfl
  | post | dispatchInside | dispatchOutside | operation | complete | read | throws =>
    exact .inr ((Elsewhere.refl s).congr rfl)
  | runOne h io hpc =>
    obtain ⟨pc, hcore⟩ := enter_core { s with io := io } h
    exact .inr ((Elsewhere.executor hpc (by simp) pc).congr hcore)
  | ignored hpc =>
    rcases hpc with hpc | hpc
    · exact .inr ((Elsewhere.executor hpc (by simp) .polling).congr rfl)
    · exact .inr ((Elsewhere.executor hpc (by simp) .polling).congr rfl)
  | completed hpc | arming hpc | disarming hpc | rewriting hpc | checkedStopping hpc | checked hpc
  | restarting hpc | cancelling hpc | handlerReturn _ hpc | callbackReturn hpc | exit hpc =>
    exact .inr ((Elsewhere.executor hpc (by simp) _).congr rfl)

/-- One case for each kind of step: a birth, or something elsewhere. -/
theorem born_step {e : Event ι κ} (h : Born maxPriority s)
    (he : step maxPriority s e = some s') : Born maxPriority s' :=
  ((step_spec he).2.2.births_or_elsewhere h).elim (·.born h) h.elsewhere

omit [DecidableEq ι] [DecidableEq κ] in
theorem born_construct (hasDoorbellHandler : Bool) :
    Born maxPriority (construct ι κ hasDoorbellHandler) :=
  ⟨nofun, nofun, nofun, nofun, nofun, nofun, nofun, by simp [construct], nofun⟩

/-! ## A start is final -/

/-- Nobody is between the exchange and the return of `start()`, and nobody will be: the
exchange was made, or it will be reached no more. -/
def Decided (s : State ι κ) : Prop :=
  (∀ c, (s.call c).birth = none) ∧
    (s.isStartCalled = true ∨ s.isStopping = true ∧ ∀ c, s.call c ≠ .exchange)

/-- The calls of `start()` that returned success. -/
def State.starts (s : State ι κ) : List (Caller ι × Returned) :=
  s.returned.filter fun r => r.2.call = .start ∧ r.2.ec = none

/-- What the calls of `start()` return from now on. -/
def OnlyRefused (s s' : State ι κ) : Prop :=
  ∃ later, s'.returned = s.returned ++ later ∧
    ∀ r ∈ later, r.2.call = .start → r.2.ec = some invalidArgument

/-- What a step does when the start is decided. -/
structure Settled (s s' : State ι κ) : Prop where
  started : s'.isStarted = s.isStarted
  executor : s'.executor.isSome = s.executor.isSome
  refused : OnlyRefused s s'

/-- Is it `stop()` or the destructor? -/
def Call.stops : Call → Bool
  | .stop _ | .destroy => true
  | _ => false

/-- `stop()` returns at once when the thread is not joinable; otherwise the executor's own
call returns, and another thread's when the executor thread has ended. -/
def StopReturns (s : State ι κ) (c : Caller ι) (call : StopCall) : Prop :=
  s.call c = .joinable call ∧ s.thread ≠ .joinable ∨
    s.call c = .join call ∧ (c = .executor ∨ s.executor = some .exited)

/-- What a step adds to the calls that have returned. The destructor is the last of them;
it leaves the thread joinable when the executor thread runs it. -/
inductive Reports (s s' : State ι κ) : Prop where
  | silent (h : s'.returned = s.returned) (hd : s'.destroyed = s.destroyed)
  | other (c : Caller ι) (r : Returned) (hr : r.call ≠ .start) (hstops : r.call.stops = false)
      (h : s'.returned = s.returned ++ [(c, r)]) (hd : s'.destroyed = s.destroyed)
  | stopped (c : Caller ι) (call : StopCall) (hfrom : StopReturns s c call)
      (hex : s'.executor = s.executor) (h : s'.returned = s.returned ++ [(c, call.result)])
      (hd : s'.destroyed = (s.destroyed || call.destructor))
      (hterminated : call.destructor = true →
        (s'.terminated = true ↔ c = .executor ∧ s.thread = .joinable))
  | refused (c : Caller ι)
      (h : s'.returned = s.returned ++ [(c, ⟨.start, some invalidArgument, none⟩)])
      (hd : s'.destroyed = s.destroyed)
  | failed (c : Caller ι) (ec : Error) (hpc : (s.call c).birth = some false)
      (h : s'.returned = s.returned ++ [(c, ⟨.start, some ec, none⟩)])
      (hd : s'.destroyed = s.destroyed)
  | succeeded (c : Caller ι) (hpc : s.call c = .publish) (hstarted : s'.isStarted = true)
      (h : s'.returned = s.returned ++ [(c, ⟨.start, none, none⟩)])
      (hd : s'.destroyed = s.destroyed)

omit [DecidableEq κ] in
theorem stopReturn_returned (s : State ι κ) (c : Caller ι) (call : StopCall) :
    (stopReturn s c call).returned = s.returned ++ [(c, call.result)] := by
  unfold stopReturn StopCall.result
  split <;> rfl

omit [DecidableEq κ] in
/-- A destructor that gets there has destroyed the executor. -/
theorem stopReturn_destroyed (s : State ι κ) (c : Caller ι) (call : StopCall) :
    (stopReturn s c call).destroyed = (s.destroyed || call.destructor) := by
  unfold stopReturn
  split
  · rename_i hdestructor
    simp [hdestructor]
  · rename_i hdestructor
    simp [hdestructor, State.ret, State.setCall]

omit [DecidableEq κ] in
/-- A destructor terminates the program only where it leaves a thread that could still be
joined. -/
theorem stopReturn_terminated (s : State ι κ) (c : Caller ι) {call : StopCall}
    (h : call.destructor = true) :
    (stopReturn s c call).terminated = true ↔ s.thread = .joinable := by
  unfold stopReturn
  rw [if_pos h]
  exact decide_eq_true_iff

omit [DecidableEq κ] in
theorem stopReturn_executor (s : State ι κ) (c : Caller ι) (call : StopCall) :
    (stopReturn s c call).executor = s.executor := by
  unfold stopReturn
  split <;> rfl

theorem StopCall.result_stops (call : StopCall) : call.result.call.stops = true := by
  unfold StopCall.result
  split <;> rfl

/-- What `stop()` reports is no result of `start()`. -/
theorem StopCall.result_ne_start (call : StopCall) : call.result.call ≠ .start := by
  intro h
  have hstops := call.result_stops
  rw [h] at hstops
  cases hstops

omit [DecidableEq ι] [DecidableEq κ] in
theorem enter_returned (s : State ι κ) (h : Handler κ) : (enter s h).returned = s.returned := by
  cases h with
  | callback | cancelDoorbell => rfl
  | doorbell ec => cases ec <;> rfl

omit [DecidableEq ι] [DecidableEq κ] in
theorem enter_destroyed (s : State ι κ) (h : Handler κ) :
    (enter s h).destroyed = s.destroyed := by
  cases h with
  | callback | cancelDoorbell => rfl
  | doorbell ec => cases ec <;> rfl

/-- A step reports at most one result, that of the call which it ends. -/
theorem StepSpec.reports {e : Event ι κ} (hstep : StepSpec maxPriority s e s') :
    Reports s s' := by
  cases hstep with
  | startStopped c => exact .refused c rfl rfl
  | startAgain c => exact .refused c rfl rfl
  | controlRefused c op => exact .other c ⟨.control op, _, _⟩ nofun rfl rfl rfl
  | ringUnarmed c => exact .other c ⟨.ring, _, _⟩ nofun rfl rfl rfl
  | startFails c errno ec hpc =>
    refine .failed c ec ?_ rfl rfl
    generalize s.call c = pc at hpc
    cases hpc <;> rfl
  | publish c answer hpc => exact .succeeded c hpc rfl rfl rfl
  | notJoinable c answer call hpc hthread =>
    refine .stopped c call (.inl ⟨hpc, hthread⟩) (stopReturn_executor s c call)
      (stopReturn_returned s c call) (stopReturn_destroyed s c call) fun h => ?_
    rw [stopReturn_terminated s c h]
    exact ⟨fun h => absurd h hthread, fun h => h.2⟩
  | joinSelf answer call hpc =>
    refine .stopped .executor call (.inr ⟨hpc, .inl rfl⟩) (stopReturn_executor s .executor call)
      (stopReturn_returned s .executor call) (stopReturn_destroyed s .executor call) fun h => ?_
    rw [stopReturn_terminated s .executor h]
    exact ⟨fun h => ⟨rfl, h⟩, fun h => h.2⟩
  | joinOther t answer call hpc hexited =>
    refine .stopped (.thread t) call (.inr ⟨hpc, .inr hexited⟩)
      (stopReturn_executor { s with thread := .joined } (.thread t) call)
      (stopReturn_returned { s with thread := .joined } (.thread t) call)
      (stopReturn_destroyed { s with thread := .joined } (.thread t) call) fun h => ?_
    rw [stopReturn_terminated { s with thread := .joined } (.thread t) h]
    exact ⟨nofun, nofun⟩
  | controlStopping c answer op => exact .other c ⟨.control op, _, _⟩ nofun rfl rfl rfl
  | pthreadFails c errno op => exact .other c ⟨.control op, _, _⟩ nofun rfl rfl rfl
  | pthread c answer op =>
    cases op with
    | setPriority p => exact .other c ⟨.control (.setPriority p), _, _⟩ nofun rfl rfl rfl
    | getPriority => exact .other c ⟨.control .getPriority, _, _⟩ nofun rfl rfl rfl
    | setCpuAffinity cpu => exact .other c ⟨.control (.setCpuAffinity cpu), _, _⟩ nofun rfl rfl rfl
  | write c => exact .other c ⟨.ring, _, _⟩ nofun rfl rfl rfl
  | runOne h io => exact .silent (enter_returned _ h) (enter_destroyed _ h)
  | _ => exact .silent rfl rfl

omit [DecidableEq κ] in
theorem stopReturn_stopping (s : State ι κ) (c : Caller ι) (call : StopCall) :
    (stopReturn s c call).isStopping = s.isStopping := by
  unfold stopReturn
  split <;> rfl

/-- `is_stopping` is never cleared. -/
theorem StepSpec.stopping {e : Event ι κ} (hstep : StepSpec maxPriority s e s')
    (h : s.isStopping = true) : s'.isStopping = true := by
  cases hstep with
  | stopCalled => rfl
  | notJoinable c answer call => exact (stopReturn_stopping s c call).trans h
  | joinSelf answer call => exact (stopReturn_stopping s .executor call).trans h
  | joinOther t answer call => exact (stopReturn_stopping _ (.thread t) call).trans h
  | pthread c answer op => cases op <;> exact h
  | runOne handler io =>
    cases handler with
    | callback | cancelDoorbell => exact h
    | doorbell ec => cases ec <;> exact h
  | _ => exact h

/-- A decided start stays decided, and every call of `start()` is refused. -/
theorem Decided.step {e : Event ι κ} (hd : Decided s) (hB : Born maxPriority s)
    (hstep : StepSpec maxPriority s e s') : Decided s' ∧ Settled s s' := by
  obtain ⟨hnone, hcalled⟩ := hd
  have hbirth : ∀ c b, (s.call c).birth ≠ some b := fun c b h => by simp [hnone c] at h
  have hrefused : OnlyRefused s s' := by
    cases hstep.reports with
    | silent h => exact ⟨[], by simp [h], fun r hr => absurd hr List.not_mem_nil⟩
    | other c r hr hstops h => exact ⟨_, h, fun r' hr' hstart => absurd (by simp_all) hr⟩
    | stopped c call hfrom hex h =>
      refine ⟨_, h, fun r' hr' hstart => ?_⟩
      obtain rfl := List.mem_singleton.mp hr'
      exact absurd hstart call.result_ne_start
    | refused c h => exact ⟨_, h, by simp⟩
    | failed c ec hpc => exact absurd hpc (hbirth c false)
    | succeeded c hpc => exact absurd (congrArg CallPc.birth hpc) (hbirth c true)
  rcases hstep.births_or_elsewhere hB with hbirths | helse
  · cases hbirths with
    | first c pc hc hnot =>
      rcases hcalled with hcalled | ⟨-, hcalled⟩
      · simp [hnot] at hcalled
      · exact absurd hc (hcalled c)
    | moves c pc b hc => exact absurd hc (hbirth c b)
    | createThread c hc => exact absurd (congrArg CallPc.birth hc) (hbirth c false)
    | setHandle c hc => exact absurd (congrArg CallPc.birth hc) (hbirth c true)
    | publish c hc => exact absurd (congrArg CallPc.birth hc) (hbirth c true)
    | join c hc hexited hs' =>
      simp only [State.core, Prod.mk.injEq] at hs'
      obtain ⟨hstart, hstarted, -, -, hexecutor, hcall⟩ := hs'
      refine ⟨⟨fun c' => ?_, ?_⟩, hstarted, congrArg Option.isSome hexecutor, hrefused⟩
      · rw [hcall, State.call_setCall]
        split
        · rfl
        · exact hnone c'
      · rcases hcalled with hcalled | ⟨hstopping, hcalled⟩
        · exact .inl (hstart.trans hcalled)
        · refine .inr ⟨hstep.stopping hstopping, fun c' => ?_⟩
          rw [hcall, State.call_setCall]
          split
          · simp
          · exact hcalled c'
  · refine ⟨⟨fun c' => ?_, ?_⟩, helse.started, helse.runs.isSome, hrefused⟩
    · rcases helse.call c' with heq | ⟨hplain, -⟩
      · rw [heq]
        exact hnone c'
      · exact hplain
    · rcases hcalled with hcalled | ⟨hstopping, hcalled⟩
      · exact .inl (helse.startCalled.trans hcalled)
      · refine .inr ⟨hstep.stopping hstopping, fun c' hc' => ?_⟩
        rcases helse.call c' with heq | ⟨-, -, hexchange⟩
        · exact hcalled c' (heq ▸ hc')
        · simp [hexchange hc'] at hstopping

omit [DecidableEq ι] [DecidableEq κ] in
/-- A result of another call, or a refusal, starts nothing. -/
theorem starts_append {r : Caller ι × Returned} (h : s'.returned = s.returned ++ [r])
    (hr : r.2.call = .start → r.2.ec ≠ none) : s'.starts = s.starts := by
  rw [State.starts, h, List.filter_append, List.filter_cons_of_neg, List.filter_nil,
    List.append_nil]
  · rfl
  · simpa using hr

/-- As many calls of `start()` have returned success as have stored `is_started`: one at
most. -/
theorem starts_step {e : Event ι κ} (hB : Born maxPriority s) (hstep : StepSpec maxPriority s e s')
    (h : s.starts.length = if s.isStarted then 1 else 0) :
    s'.starts.length = if s'.isStarted then 1 else 0 := by
  by_cases hstarted : s'.isStarted = s.isStarted
  · have hsame : s'.starts = s.starts := by
      cases hstep.reports with
      | silent heq => rw [State.starts, heq, State.starts]
      | other c r hr hstops heq => exact starts_append heq fun hstart => absurd hstart hr
      | stopped c call hfrom hex heq =>
        exact starts_append heq fun hstart => absurd hstart call.result_ne_start
      | refused c heq => exact starts_append heq nofun
      | failed c ec hpc heq => exact starts_append heq nofun
      | succeeded c hpc htrue heq =>
        have hnot := (hB.birth c true (by rw [hpc]; rfl)).2.1
        rw [← hstarted, htrue] at hnot
        cases hnot
    rw [hsame, hstarted, h]
  · rcases hstep.births_or_elsewhere hB with hbirths | helse
    · cases hbirths with
      | publish c hc hs' =>
        have hnot := (hB.birth c true (by rw [hc]; rfl)).2.1
        subst hs'
        rw [hnot] at h
        show ((s.returned ++ [(c, _)]).filter _).length = 1
        rw [List.filter_append, List.length_append]
        exact congrArg (· + 1) h
      | first c pc hc hcalled hpc hs' | moves c pc b hc hpc hpublish hs' | createThread c hc hs'
      | setHandle c hc hs' | join c hc hexited hs' =>
        exact absurd (congrArg (fun core => core.2.1) hs') hstarted
    · exact absurd helse.started hstarted

/-- Exactly one `start()` has succeeded by the time the executor is started, and none
before. -/
theorem starts_of_reachable {ok : Guard (State ι κ) (Event ι κ)}
    (h : Reachable (system ι κ maxPriority) ok s) :
    Born maxPriority s ∧ s.starts.length = if s.isStarted then 1 else 0 := by
  refine h.invariant
    (I := fun s => Born maxPriority s ∧ s.starts.length = if s.isStarted then 1 else 0) ?_ ?_
  · rintro s ⟨hasDoorbellHandler, rfl⟩
    exact ⟨born_construct hasDoorbellHandler, rfl⟩
  · intro s e s' hI _ he
    exact ⟨born_step hI.1 he, starts_step hI.1 (step_spec he).2.2 hI.2⟩

omit [DecidableEq ι] [DecidableEq κ] in
/-- Refusals compose along a run. -/
theorem OnlyRefused.trans {t : State ι κ} (h₁ : OnlyRefused s s') (h₂ : OnlyRefused s' t) :
    OnlyRefused s t := by
  obtain ⟨l₁, heq₁, hr₁⟩ := h₁
  obtain ⟨l₂, heq₂, hr₂⟩ := h₂
  refine ⟨l₁ ++ l₂, by rw [heq₂, heq₁, List.append_assoc], fun r hr => ?_⟩
  exact (List.mem_append.mp hr).elim (hr₁ r) (hr₂ r)

/-- Once it is decided whether the executor is started, every later `start()` is refused, by
induction on the run. -/
theorem settled_of_path {ok : Guard (State ι κ) (Event ι κ)} {t : State ι κ}
    (hB : Born maxPriority s) (hd : Decided s) (hpath : Path (system ι κ maxPriority) ok s t) :
    Settled s t := by
  have hI : Born maxPriority t ∧ Decided t ∧ Settled s t := by
    refine hpath.invariant (I := fun t => Born maxPriority t ∧ Decided t ∧ Settled s t) ?_
      ⟨hB, hd, rfl, rfl, [], by simp, nofun⟩
    rintro u e u' ⟨hBu, hdu, hsu⟩ - he
    obtain ⟨hdu', hsu'⟩ := hdu.step hBu (step_spec he).2.2
    exact ⟨born_step hBu he, hdu', hsu'.started.trans hsu.started,
      hsu'.executor.trans hsu.executor, hsu.refused.trans hsu'.refused⟩
  exact hI.2.2

/-- **An executor starts at most once, and a start is final.** For every interleaving of
any number of calls, at most one call of `start()` returns success, and it is then that
`is_started` is set; a thread that was created is started, or the call that created it
is about to say so. As soon as the call that won the exchange has returned, with success
or not, or once `stop()` has been called and no `start()` is under way, every `start()`
is refused with `invalid_argument`, and the thread is created, or counts as started, no
more than it was. -/
theorem starts_once {ok : Guard (State ι κ) (Event ι κ)}
    (h : Reachable (system ι κ maxPriority) ok s) :
    s.starts.length = (if s.isStarted then 1 else 0) ∧
    (s.isStarted = true → s.executor.isSome = true ∧ s.isStartCalled = true) ∧
    (s.executor.isSome = true → s.isStarted = true ∨
      ∃ c, (s.call c = .setHandle ∨ s.call c = .publish) ∧
        ∀ c', (s.call c').birth ≠ none → c' = c) ∧
    (Decided s → ∀ t, Path (system ι κ maxPriority) ok s t →
      t.isStarted = s.isStarted ∧ t.executor.isSome = s.executor.isSome ∧
      ∃ later, t.returned = s.returned ++ later ∧
        ∀ r ∈ later, r.2.call = .start → r.2.ec = some invalidArgument) := by
  obtain ⟨hB, hstarts⟩ := starts_of_reachable h
  refine ⟨hstarts, ?_, ?_, ?_⟩
  · intro hstarted
    have hsome := (hB.started hstarted).1
    exact ⟨hsome, hB.created hsome⟩
  · intro hsome
    rcases hB.followed hsome with hstarted | ⟨c, hc⟩
    · exact .inl hstarted
    · refine .inr ⟨c, ?_, fun c' hc' => ?_⟩
      · generalize s.call c = pc at hc
        cases pc with
        | setHandle => exact .inl rfl
        | publish => exact .inr rfl
        | _ => cases hc
      · obtain ⟨b, hb⟩ := Option.ne_none_iff_exists'.mp hc'
        exact hB.unique c' c b true hb hc
  · intro hd t hpath
    have hsettled := settled_of_path hB hd hpath
    exact ⟨hsettled.started, hsettled.executor, hsettled.refused⟩

/-- `c` calls `f`, and the call takes `n` more steps. -/
def calls (c : Caller Bool) (f : Call) (n : Nat) : List (Event Bool Nat) :=
  .call c f :: List.replicate n (.advance c (.ok 0))

/-- Two threads call `start()`; the second one wins the exchange. -/
def startedOnce : List (Event Bool Nat) :=
  [.call (.thread false) .start] ++ calls (.thread true) .start 1 ++
    [.advance (.thread false) (.ok 0)] ++ List.replicate 7 (.advance (.thread true) (.ok 0))

/-- Then one of them has started the executor, and nobody else will. -/
theorem starts_once_startedOnce :
    ∃ s, run (system Bool Nat 99) anyStep (construct Bool Nat true) startedOnce = some s ∧
      s.starts.length = 1 ∧ s.returned = [(.thread false, ⟨.start, some invalidArgument, none⟩),
        (.thread true, ⟨.start, none, none⟩)] ∧
      ∀ t, Path (system Bool Nat 99) anyStep s t → t.isStarted = true := by
  have hany : (run (system Bool Nat 99) anyStep (construct Bool Nat true) startedOnce).any
      (fun s => s.isStarted = true ∧ s.isStartCalled = true ∧
        s.returned = [(.thread false, ⟨.start, some invalidArgument, none⟩),
          (.thread true, ⟨.start, none, none⟩)] ∧
        s.call .executor = .idle ∧ ∀ t, s.call (.thread t) = .idle) = true := by decide
  obtain ⟨s, hrun, hs⟩ := (Option.any_eq_true _ _).mp hany
  obtain ⟨hstarted, hcalled, hreturned, hexecutor, hthreads⟩ := of_decide_eq_true hs
  have hreach : Reachable (system Bool Nat 99) anyStep s :=
    ⟨_, ⟨true, rfl⟩, Path.of_run startedOnce hrun⟩
  obtain ⟨hlength, -, -, hfinal⟩ := starts_once hreach
  have hidle : ∀ c, s.call c = .idle := by
    rintro (t | -)
    · exact hthreads t
    · exact hexecutor
  have hdecided : Decided s := ⟨fun c => by rw [hidle c]; rfl, .inl hcalled⟩
  refine ⟨s, hrun, by rw [hlength, hstarted]; rfl, hreturned, fun t hpath => ?_⟩
  exact (hfinal hdecided t hpath).1.trans hstarted

end CppComponents.Executor.Lifecycle
