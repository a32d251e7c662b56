import CppComponents.HttpsMultiplexClient.Frame

/-!
# What is recorded of a request

`Fate` says what the trace may record of a call of `do_request()` that has
ended: a rejection, the message of its own transfer with that transfer's
response, or a cancellation, each with the one call of its handler. `record` is
the part of it that every accepted request starts with.

`Recorded` is the invariant of the records. It says which requests are live, and
each step of the request half of the client keeps it: a call curl makes
(`Progress`), and what the functions do between those.
-/

namespace CppComponents.HttpsMultiplexClient

open CppComponents.Transition

variable {H : Type}

/-! ## Records -/

def bodyOf (data : List Data) : Text :=
  data.flatMap fun
    | .body data => data
    | .header _ => []

def headersOf (data : List Data) : List HttpHeader :=
  data.filterMap fun
    | .body _ => none
    | .header line => parseHeader line

/-- The response to a transfer that ends with `result`. -/
def responseOf (data : List Data) (result : CURLcode) (httpCode : Nat) : HttpResponse :=
  if result = .ok then ⟨httpCode, bodyOf data, headersOf data⟩ else {}

/-- The record of an accepted request that has not ended. -/
def record (n : Nat) (args : RequestArgs H) (data : List Data) (done : Option (CURLcode × Nat)) :
    List (Obs H) :=
  .submitted n args :: .accepted n :: data.map (.data n) ++
    done.toList.map fun d => .done n d.1 d.2

/-- The record of call `n` of `do_request()` once it has ended. -/
inductive Fate (n : Nat) (args : RequestArgs H) : List (Obs H) → Prop where
  | rejected {code : Errc} (pending : Nat)
      (hcode : code ∈ [Errc.invalidArgument, .operationNotPermitted,
        .resourceUnavailableTryAgain, .ioError]) :
      Fate n args (.submitted n args :: answers n args.handler (some (.errc code)) {} pending)
  | finished (data : List Data) (result : CURLcode) (httpCode pending : Nat) :
      Fate n args (record n args data (some (result, httpCode)) ++ .ended n ::
        answers n args.handler ((fromCurlCode result).map .errc)
          (responseOf data result httpCode) pending)
  | canceled (data : List Data) (done : Option (CURLcode × Nat)) (pending : Nat) :
      Fate n args (record n args data done ++ .ended n ::
        answers n args.handler (some (.errc .operationCanceled)) {} pending)

/-- Is the observation about request `n`? -/
def Obs.isAbout (n : Nat) : Obs H → Bool
  | .submitted m _ | .accepted m | .data m _ | .done m _ _ | .ended m | .answered m _ _ _ _ =>
    m = n
  | .notFound => false

/-- The record of request `n`. -/
def Requests.about (r : Requests H) (n : Nat) : List (Obs H) := r.trace.filter (Obs.isAbout n)

/-- Every observation of `l` is about request `n`, and so about no other. -/
def AllAbout (n : Nat) (l : List (Obs H)) : Prop :=
  ∀ o ∈ l, ∀ m, o.isAbout m = decide (n = m)

theorem allAbout_answers (n : Nat) (handler : Option H) (ec : Option ErrorCode)
    (response : HttpResponse) (pending : Nat) :
    AllAbout n (answers n handler ec response pending) := by
  intro o ho m
  obtain ⟨a, -, rfl⟩ := List.mem_map.mp ho
  rfl

/-- The record of a request grows with what is about it. -/
theorem about_append_self {r r' : Requests H} {n : Nat} {l : List (Obs H)}
    (htrace : r'.trace = r.trace ++ l) (h : AllAbout n l) : r'.about n = r.about n ++ l := by
  have hl : l.filter (Obs.isAbout n) = l :=
    List.filter_eq_self.mpr fun o ho => by simp [h o ho]
  rw [Requests.about, htrace, List.filter_append, hl]
  rfl

/-- The other records stay. -/
theorem about_append_other {r r' : Requests H} {n m : Nat} {l : List (Obs H)}
    (htrace : r'.trace = r.trace ++ l) (h : AllAbout n l) (hne : m ≠ n) :
    r'.about m = r.about m := by
  have hl : l.filter (Obs.isAbout m) = [] :=
    List.filter_eq_nil_iff.mpr fun o ho => by simp [h o ho, hne.symm]
  rw [Requests.about, htrace, List.filter_append, hl, List.append_nil]
  rfl

/-! ## The invariant of the records -/

/-- The connection of a request holds its handler and its response so far. -/
structure Matches (conn : ConnContext H) (args : RequestArgs H) (data : List Data) : Prop where
  handler : conn.handler = args.handler
  easy : conn.easy.isSome = true
  body : conn.responseBody = bodyOf data
  headers : conn.responseHeaders = headersOf data

/-- Curl's data enters the response of its connection. -/
theorem Matches.apply {conn : ConnContext H} {args : RequestArgs H} {data : List Data}
    (h : Matches conn args data) (d : Data) : Matches (d.apply conn) args (data ++ [d]) := by
  obtain ⟨hhandler, heasy, hbody, hheaders⟩ := h
  cases d with
  | body text =>
    exact ⟨hhandler, heasy, by simp [Data.apply, hbody, bodyOf],
      by simp [Data.apply, hheaders, headersOf]⟩
  | header line =>
    refine ⟨hhandler, heasy, by simp [Data.apply, hbody, bodyOf], ?_⟩
    cases hline : parseHeader line <;> simp [Data.apply, hheaders, headersOf, hline]

/-- A request that has been accepted and has not ended. -/
structure Running (r : Requests H) (n : Nat) (args : RequestArgs H) (data : List Data)
    (done : Option (CURLcode × Nat)) : Prop where
  record : r.about n = record n args data done
  finished : n ∈ r.finished ↔ done.isSome = true
  message : ∀ msg ∈ r.messages, msg.easy = n → done = some (msg.result, msg.httpCode)
  conn : ∀ conn, r.connections.lookup n = some conn → Matches conn args data

namespace Running

variable {r r' : Requests H} {n : Nat} {args : RequestArgs H} {data : List Data}
  {done : Option (CURLcode × Nat)}

/-- Nothing happens to the request. -/
theorem congr (h : Running r n args data done) (habout : r'.about n = r.about n)
    (hfinished : n ∈ r'.finished ↔ n ∈ r.finished)
    (hmessages : ∀ msg ∈ r'.messages, msg.easy = n → msg ∈ r.messages)
    (hconnections : ∀ conn, r'.connections.lookup n = some conn →
      r.connections.lookup n = some conn) :
    Running r' n args data done where
  record := habout.trans h.record
  finished := hfinished.trans h.finished
  message := fun msg hmsg heq => h.message msg (hmessages msg hmsg heq) heq
  conn := fun conn hconn => h.conn conn (hconnections conn hconn)

theorem not_done (h : Running r n args data done) (hn : r.Transferring n) : done = none := by
  have hnot := mt h.finished.mpr hn.2
  simpa using hnot

/-- A part of the response arrives. -/
theorem receive (h : Running r n args data none) (d : Data) :
    Running { r with
      connections := applyData r.connections n d
      trace := r.trace ++ [.data n d] } n args (data ++ [d]) none where
  record := by
    have hall : AllAbout (H := H) n [.data n d] := List.forall_mem_singleton.mpr fun _ => rfl
    rw [about_append_self (r := r) rfl hall, h.record]
    simp [HttpsMultiplexClient.record]
  finished := h.finished
  message := h.message
  conn := fun conn hconn => by
    have hconn : (applyData r.connections n d).lookup n = some conn := hconn
    rw [lookup_applyData, Option.map_eq_some_iff] at hconn
    obtain ⟨conn', hlookup, hconn⟩ := hconn
    rw [if_pos rfl] at hconn
    exact hconn ▸ (h.conn conn' hlookup).apply d

/-- The transfer is done. -/
theorem complete (h : Running r n args data none) (result : CURLcode) (httpCode : Nat) :
    Running { r with
      finished := n :: r.finished
      messages := r.messages ++ [⟨n, result, httpCode⟩]
      trace := r.trace ++ [.done n result httpCode] } n args data (some (result, httpCode)) where
  record := by
    have hall : AllAbout (H := H) n [.done n result httpCode] :=
      List.forall_mem_singleton.mpr fun _ => rfl
    rw [about_append_self (r := r) rfl hall, h.record]
    simp [HttpsMultiplexClient.record]
  finished := by simp
  message := fun msg hmsg heq => by
    -- there was no message yet
    rcases List.mem_append.mp hmsg with hmsg | hmsg
    · cases h.message msg hmsg heq
    · obtain rfl := List.mem_singleton.mp hmsg
      rfl
  conn := h.conn

end Running

/-- What the records say of the first `decided` calls of `do_request()`: the
`live` ones are running, the others have ended. -/
structure Recorded (r : Requests H) (live : Nat → Prop) (decided : Nat) : Prop where
  bound : decided ≤ r.calls
  liveLt : ∀ n, live n → n < decided
  handles : ∀ n ∈ r.handles, live n
  finished : ∀ n ∈ r.finished, n < decided
  messages : ∀ msg ∈ r.messages, msg.easy ∈ r.handles
  fresh : ∀ n, r.calls ≤ n → r.about n = []
  running : ∀ n, live n → ∃ args data done, Running r n args data done
  ended : ∀ n < decided, ¬ live n → ∃ args, Fate n args (r.about n)
  found : .notFound ∉ r.trace

/-- Progress of a transfer changes its own record only. -/
theorem Requests.Progress.frame {r r' : Requests H} (h : r.Progress r') :
    r'.handles = r.handles ∧ r'.pending = r.pending ∧ r'.multi = r.multi ∧ r'.calls = r.calls ∧
      r'.connections.keys.Perm r.connections.keys := by
  cases h with
  | same => exact ⟨rfl, rfl, rfl, rfl, .rfl⟩
  | @data n hn data =>
    refine ⟨rfl, rfl, rfl, rfl, ?_⟩
    show (applyData r.connections n data).keys.Perm r.connections.keys
    unfold applyData
    split
    · exact .rfl
    · rename_i conn hconn
      have hmem : n ∈ r.connections.keys := by
        rw [← AList.mem_keys, ← AList.lookup_isSome, hconn]
        rfl
      rw [AList.keys_insert]
      exact (List.perm_cons_erase hmem).symm
  | done => exact ⟨rfl, rfl, rfl, rfl, .rfl⟩

/-- Curl's calls record nothing about a request whose handle it does not have. -/
theorem Requests.Progress.about {r r' : Requests H} (h : r.Progress r') {m : Nat}
    (hm : m ∉ r.handles) : r'.about m = r.about m := by
  cases h with
  | same => rfl
  | @data n hn data =>
    have hne : m ≠ n := fun heq => hm (heq ▸ hn.1)
    exact about_append_other rfl (List.forall_mem_singleton.mpr fun _ => rfl) hne
  | @done n hn result httpCode =>
    have hne : m ≠ n := fun heq => hm (heq ▸ hn.1)
    exact about_append_other rfl (List.forall_mem_singleton.mpr fun _ => rfl) hne

namespace Recorded

variable {r r' : Requests H} {live : Nat → Prop} {decided : Nat}

/-- A call that is not made yet has no handle. -/
theorem not_mem_handles (h : Recorded r live decided) {n : Nat} (hn : r.calls ≤ n) :
    n ∉ r.handles := by
  intro hmem
  have := h.liveLt n (h.handles n hmem)
  have := h.bound
  omega

/-- A transfer that goes on is still running. -/
theorem progress (h : Recorded r live decided) (hp : r.Progress r') :
    Recorded r' live decided := by
  have habout := fun m => hp.about (m := m)
  cases hp with
  | same => exact h
  -- bytes arrive for `n`, which has neither ended nor been answered
  | @data n hn data =>
    have hall : AllAbout (H := H) n [.data n data] :=
      List.forall_mem_singleton.mpr fun _ => rfl
    exact { h with
      fresh := fun m hm => by
        rw [habout m (h.not_mem_handles hm)]
        exact h.fresh m hm
      running := fun m hm => by
        obtain ⟨args, data', done, hrunning⟩ := h.running m hm
        by_cases hne : m = n
        · subst hne
          obtain rfl := hrunning.not_done hn
          exact ⟨args, data' ++ [data], none, hrunning.receive data⟩
        · refine ⟨args, data', done, hrunning.congr (about_append_other rfl hall hne) .rfl
            (fun _ hmsg _ => hmsg) fun conn hconn => ?_⟩
          have hconn : (applyData r.connections n data).lookup m = some conn := hconn
          rw [lookup_applyData] at hconn
          simpa [hne] using hconn
      ended := fun m hm hnot => by
        rw [habout m fun hmem => hnot (h.handles m hmem)]
        exact h.ended m hm hnot
      found := by
        simpa using h.found }
  -- the transfer of `n` ends, and the message that tells so is queued
  | @done n hn result httpCode =>
    have hall : AllAbout (H := H) n [.done n result httpCode] :=
      List.forall_mem_singleton.mpr fun _ => rfl
    exact { h with
      finished := fun m hm => by
        rcases List.mem_cons.mp hm with rfl | hm
        · exact h.liveLt m (h.handles m hn.1)
        · exact h.finished m hm
      messages := fun msg hmsg => by
        rcases List.mem_append.mp hmsg with hmsg | hmsg
        · exact h.messages msg hmsg
        · obtain rfl := List.mem_singleton.mp hmsg
          exact hn.1
      fresh := fun m hm => by
        rw [habout m (h.not_mem_handles hm)]
        exact h.fresh m hm
      running := fun m hm => by
        obtain ⟨args, data, done, hrunning⟩ := h.running m hm
        by_cases hne : m = n
        · subst hne
          obtain rfl := hrunning.not_done hn
          exact ⟨args, data, some (result, httpCode), hrunning.complete result httpCode⟩
        · refine ⟨args, data, done, hrunning.congr (about_append_other rfl hall hne)
            (by simp [hne]) (fun msg hmsg heq => ?_) fun _ => id⟩
          rcases List.mem_append.mp hmsg with hmsg | hmsg
          · exact hmsg
          · obtain rfl := List.mem_singleton.mp hmsg
            exact absurd heq (Ne.symm hne)
      ended := fun m hm hnot => by
        rw [habout m fun hmem => hnot (h.handles m hmem)]
        exact h.ended m hm hnot
      found := by
        simpa using h.found }

/-- Removing a handle changes no record. -/
theorem remove (h : Recorded r live decided) (n : Nat) (connections : Map (ConnContext H))
    (hconnections : ∀ m conn, connections.lookup m = some conn →
      r.connections.lookup m = some conn) :
    Recorded (r.remove n connections) live decided :=
  { h with
    handles := fun m hm => h.handles m (List.mem_of_mem_erase hm)
    messages := fun msg hmsg => by
      obtain ⟨hmem, hne⟩ := List.mem_filter.mp hmsg
      exact (List.mem_erase_of_ne (by simpa using hne)).mpr (h.messages msg hmem)
    running := fun m hm => by
      obtain ⟨args, data, done, hrunning⟩ := h.running m hm
      exact ⟨args, data, done, hrunning.congr rfl .rfl
        (fun _ hmsg _ => List.mem_of_mem_filter hmsg) (hconnections m)⟩ }

/-- A live request ends, after its handle has been removed. -/
theorem finish (h : Recorded r live decided) {n : Nat} {args : RequestArgs H}
    {handler : Option H} {ec : Option ErrorCode} {response : HttpResponse} {pending : Nat}
    (hlive : live n) (hgone : n ∉ r.handles)
    (hfate : Fate n args (r.about n ++ .ended n :: answers n handler ec response pending)) :
    Recorded (r.finish n handler ec response pending) (fun m => live m ∧ m ≠ n) decided := by
  have hall : AllAbout n (.ended n :: answers n handler ec response pending) :=
    List.forall_mem_cons.mpr ⟨fun _ => rfl, allAbout_answers _ _ _ _ _⟩
  have hother : ∀ m, m ≠ n → (r.finish n handler ec response pending).about m = r.about m :=
    fun m hne => about_append_other (r := r) rfl hall hne
  -- only the record of `n` grows, and it grows to a fate
  exact { h with
    liveLt := fun m hm => h.liveLt m hm.1
    handles := fun m hm => ⟨h.handles m hm, fun heq => hgone (heq ▸ hm)⟩
    fresh := fun m hm => by
      have hm : r.calls ≤ m := hm
      have := h.liveLt n hlive
      have := h.bound
      rw [hother m (by omega)]
      exact h.fresh m hm
    running := fun m hm => by
      obtain ⟨args, data, done, hrunning⟩ := h.running m hm.1
      exact ⟨args, data, done, { hrunning with record := (hother m hm.2).trans hrunning.record }⟩
    ended := fun m hm hnot => by
      by_cases hne : m = n
      · subst hne
        refine ⟨args, ?_⟩
        rw [about_append_self (r := r) rfl hall]
        exact hfate
      · rw [hother m hne]
        exact h.ended m hm fun hlive' => hnot ⟨hlive', hne⟩
    found := by
      have := h.found
      simp [Requests.finish, answers, this] }

/-- `do_request()` is called; what becomes of the call is undecided. -/
theorem submit (h : Recorded r live r.calls) (args : RequestArgs H) :
    Recorded (r.submit args) live r.calls ∧
      (r.submit args).about r.calls = [.submitted r.calls args] := by
  have hall : AllAbout r.calls [.submitted r.calls args] :=
    List.forall_mem_singleton.mpr fun _ => rfl
  have hother : ∀ m, m ≠ r.calls → (r.submit args).about m = r.about m :=
    fun m hne => about_append_other (r := r) rfl hall hne
  -- the call has the next number, so nothing is recorded about it yet
  constructor
  · exact { h with
      bound := Nat.le_succ _
      fresh := fun m hm => by
        have hm : r.calls + 1 ≤ m := hm
        rw [hother m (by omega)]
        exact h.fresh m (by omega)
      running := fun m hm => by
        obtain ⟨args', data, done, hrunning⟩ := h.running m hm
        have habout := hother m (Nat.ne_of_lt (h.liveLt m hm))
        exact ⟨args', data, done, { hrunning with record := habout.trans hrunning.record }⟩
      ended := fun m hm hnot => by
        rw [hother m (Nat.ne_of_lt hm)]
        exact h.ended m hm hnot
      found := by
        have := h.found
        simp [Requests.submit, this] }
  · rw [about_append_self (r := r) rfl hall, h.fresh _ (Nat.le_refl _)]
    rfl

/-- The call is rejected. -/
theorem reject (h : Recorded r live decided) (hcalls : r.calls = decided + 1)
    {args : RequestArgs H} (habout : r.about decided = [.submitted decided args]) {code : Errc}
    (hcode : code ∈ [Errc.invalidArgument, .operationNotPermitted,
      .resourceUnavailableTryAgain, .ioError]) :
    Recorded (r.tell decided args.handler (some (.errc code)) {}) live (decided + 1) := by
  have hall := allAbout_answers decided args.handler (some (.errc code)) {} r.pending
  have hother : ∀ m, m ≠ decided →
      (r.tell decided args.handler (some (.errc code)) {}).about m = r.about m :=
    fun m hne => about_append_other (r := r) rfl hall hne
  -- no handle was added, so the call is decided by being told so
  exact { h with
    bound := Nat.le_of_eq hcalls.symm
    liveLt := fun m hm => Nat.lt_succ_of_lt (h.liveLt m hm)
    finished := fun m hm => Nat.lt_succ_of_lt (h.finished m hm)
    fresh := fun m hm => by
      have hm : r.calls ≤ m := hm
      rw [hother m (by omega)]
      exact h.fresh m hm
    running := fun m hm => by
      obtain ⟨args', data, done, hrunning⟩ := h.running m hm
      have hsame := hother m (Nat.ne_of_lt (h.liveLt m hm))
      exact ⟨args', data, done, { hrunning with record := hsame.trans hrunning.record }⟩
    ended := fun m hm hnot => by
      by_cases hne : m = decided
      · subst hne
        refine ⟨args, ?_⟩
        rw [about_append_self (r := r) rfl hall, habout]
        exact .rejected r.pending hcode
      · rw [hother m hne]
        exact h.ended m (by omega) hnot
    found := by
      have := h.found
      simp [Requests.tell, answers, this] }

/-- The call is accepted: its handle is in the multi. -/
theorem accept (h : Recorded r live decided) (hcalls : r.calls = decided + 1)
    {args : RequestArgs H} (habout : r.about decided = [.submitted decided args])
    {conn : ConnContext H} (hconn : Matches conn args []) :
    Recorded (r.accept decided conn) (fun m => live m ∨ m = decided) (decided + 1) := by
  have hall : AllAbout (H := H) decided [.accepted decided] :=
    List.forall_mem_singleton.mpr fun _ => rfl
  have hother : ∀ m, m ≠ decided → (r.accept decided conn).about m = r.about m :=
    fun m hne => about_append_other (r := r) rfl hall hne
  -- the call is live from here on, with an empty body and no result
  exact {
    bound := Nat.le_of_eq hcalls.symm
    liveLt := fun m hm => by
      rcases hm with hm | rfl
      · exact Nat.lt_succ_of_lt (h.liveLt m hm)
      · exact Nat.lt_succ_self _
    handles := fun m hm => by
      rcases List.mem_cons.mp hm with rfl | hm
      · exact .inr rfl
      · exact .inl (h.handles m hm)
    finished := fun m hm => Nat.lt_succ_of_lt (h.finished m hm)
    messages := fun msg hmsg => List.mem_cons_of_mem _ (h.messages msg hmsg)
    fresh := fun m hm => by
      have hm : r.calls ≤ m := hm
      rw [hother m (by omega)]
      exact h.fresh m hm
    running := fun m hm => by
      by_cases hne : m = decided
      · subst hne
        refine ⟨args, [], none, ?_, ?_, ?_, ?_⟩
        · rw [about_append_self (r := r) rfl hall, habout]
          rfl
        · have hnot : m ∉ (r.accept m conn).finished :=
            fun hmem => Nat.lt_irrefl m (h.finished m hmem)
          simpa using hnot
        · intro msg hmsg heq
          have := h.liveLt _ (h.handles _ (h.messages msg hmsg))
          omega
        · intro conn' hconn'
          rw [show (r.accept m conn).connections = r.connections.insert m conn from rfl,
            AList.lookup_insert, Option.some.injEq] at hconn'
          exact hconn' ▸ hconn
      · obtain ⟨args', data, done, hrunning⟩ := h.running m (hm.resolve_right hne)
        refine ⟨args', data, done, hrunning.congr (hother m hne) .rfl (fun _ hmsg _ => hmsg)
          fun conn' hconn' => ?_⟩
        exact (AList.lookup_insert_ne hne).symm.trans hconn'
    ended := fun m hm hnot => by
      have hne : m ≠ decided := fun heq => hnot (.inr heq)
      rw [hother m hne]
      exact h.ended m (by omega) fun hlive => hnot (.inl hlive)
    found := by
      have := h.found
      simp [Requests.accept, this] }

/-- The counter is no part of the records. -/
theorem setPending (h : Recorded r live decided) (pending : Nat) :
    Recorded { r with pending := pending } live decided :=
  { h with
    running := fun n hn => by
      obtain ⟨args, data, done, hrunning⟩ := h.running n hn
      exact ⟨args, data, done, { hrunning with }⟩ }

theorem congr (h : Recorded r live decided) {live' : Nat → Prop} (hiff : ∀ n, live n ↔ live' n) :
    Recorded r live' decided := by
  obtain rfl : live = live' := funext fun n => propext (hiff n)
  exact h

/-- After any calls of curl. -/
theorem curl (h : Recorded r live decided)
    (hp : Relation.ReflTransGen Requests.Progress r r') : Recorded r' live decided := by
  induction hp with
  | refl => exact h
  | tail _ hstep ih => exact ih.progress hstep

end Recorded

/-- While curl runs, the handles and the counter stay. -/
theorem curl_frame {r r' : Requests H} (hp : Relation.ReflTransGen Requests.Progress r r') :
    r'.handles = r.handles ∧ r'.pending = r.pending ∧ r'.multi = r.multi ∧ r'.calls = r.calls ∧
      r'.connections.keys.Perm r.connections.keys := by
  induction hp with
  | refl => exact ⟨rfl, rfl, rfl, rfl, .rfl⟩
  | tail _ hstep ih =>
    obtain ⟨hhandles, hpending, hmulti, hcalls, hkeys⟩ := ih
    obtain ⟨hhandles', hpending', hmulti', hcalls', hkeys'⟩ := hstep.frame
    exact ⟨hhandles'.trans hhandles, hpending'.trans hpending, hmulti'.trans hmulti,
      hcalls'.trans hcalls, hkeys'.trans hkeys⟩

/-- Curl does not touch the records of requests without a handle. -/
theorem curl_about {r r' : Requests H} (hp : Relation.ReflTransGen Requests.Progress r r')
    {m : Nat} (hm : m ∉ r.handles) : r'.about m = r.about m := by
  induction hp with
  | refl => rfl
  | tail hpre hstep ih =>
    rw [hstep.about (by rw [(curl_frame hpre).1]; exact hm), ih]

/-- A live request ends: its handle is removed, which lets curl work on the others, and
then its handler is called. -/
theorem Recorded.conclude {r r' : Requests H} {live : Nat → Prop} {decided : Nat}
    (h : Recorded r live decided) {n : Nat} {args : RequestArgs H}
    {connections : Map (ConnContext H)}
    (hconnections : ∀ m conn, connections.lookup m = some conn →
      r.connections.lookup m = some conn)
    (hprogress : Relation.ReflTransGen Requests.Progress (r.remove n connections) r')
    (hlive : live n) (hnodup : r.handles.Nodup) {handler : Option H} {ec : Option ErrorCode}
    {response : HttpResponse} {pending : Nat}
    (hfate : Fate n args (r.about n ++ .ended n :: answers n handler ec response pending)) :
    Recorded (r'.finish n handler ec response pending) (fun m => live m ∧ m ≠ n) decided := by
  have hnot : n ∉ (r.remove n connections).handles := hnodup.not_mem_erase
  have hgone : n ∉ r'.handles := by
    rw [(curl_frame hprogress).1]
    exact hnot
  have habout : r'.about n = r.about n := curl_about hprogress hnot
  rw [← habout] at hfate
  exact ((h.remove n connections hconnections).curl hprogress).finish hlive hgone hfate

end CppComponents.HttpsMultiplexClient
