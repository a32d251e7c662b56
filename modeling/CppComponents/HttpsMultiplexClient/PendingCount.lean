import CppComponents.HttpsMultiplexClient.Requests

/-!
# What `pending_count()` tells a response handler

A handler, and whoever it wakes, asks `pending_count()`. `check_multi_info()`
takes the request off the counter before it calls the handler. `do_cancel()`
calls the handlers first and resets the counter after the last one, so each of
them is told of all the requests that are being cancelled, its own among them.

`unended` is the right answer, read off the record of the run. `Counted` is the
invariant: the counter is right, and every handler has been told the truth.
-/

namespace CppComponents.HttpsMultiplexClient

open CppComponents.Transition

variable {H : Type}

def Obs.isAccepted : Obs H → Bool
  | .accepted _ => true
  | _ => false

def Obs.isEnded : Obs H → Bool
  | .ended _ => true
  | _ => false

/-- The number of accepted requests whose handlers have not been called yet. A
request without a handler counts until it ends. -/
def unended (trace : List (Obs H)) : Nat :=
  trace.countP Obs.isAccepted - trace.countP Obs.isEnded

/-- After `past`, `pending_count()` tells the handler of an accepted request the
number of those that have not ended. -/
def Obs.ToldRight (past : List (Obs H)) : Obs H → Prop
  | .answered n _ _ _ pending => .accepted n ∈ past → pending = unended past
  | _ => True

/-- Every handler of an accepted request has been told the right number. -/
def PendingCountRight (trace : List (Obs H)) : Prop :=
  ∀ past o rest, trace = past ++ o :: rest → o.ToldRight past

/-- A record stays right if what is added was told right. -/
theorem PendingCountRight.append {trace : List (Obs H)} (h : PendingCountRight trace) {o : Obs H}
    (ho : o.ToldRight trace) : PendingCountRight (trace ++ [o]) := by
  intro past o' rest heq
  rcases List.eq_nil_or_concat rest with rfl | ⟨rest', last, rfl⟩
  · obtain ⟨rfl, hlast⟩ := List.append_inj' heq rfl
    obtain rfl := List.singleton_inj.mp hlast
    exact ho
  · rw [List.concat_eq_append, ← List.cons_append, ← List.append_assoc] at heq
    exact h past o' rest' (List.append_inj' heq rfl).1

/-! ## The invariant -/

/-- `pending` accepted requests have not ended, and every handler was told right. -/
structure Counted (r : Requests H) (pending : Nat) : Prop where
  count : r.trace.countP Obs.isAccepted = pending + r.trace.countP Obs.isEnded
  right : PendingCountRight r.trace

namespace Counted

variable {r r' : Requests H} {pending : Nat}

theorem unended (h : Counted r pending) : unended r.trace = pending := by
  have := h.count
  unfold HttpsMultiplexClient.unended
  omega

/-- Data and results are neither an acceptance nor an end. -/
theorem curl (h : Counted r pending) (hp : Relation.ReflTransGen Requests.Progress r r') :
    Counted r' pending := by
  induction hp with
  | refl => exact h
  | tail _ hstep ih =>
    obtain ⟨hcount, hright⟩ := ih
    cases hstep with
    | same => exact ⟨hcount, hright⟩
    | data hn data =>
      exact ⟨by simpa [Obs.isAccepted, Obs.isEnded] using hcount, hright.append trivial⟩
    | done hn result httpCode =>
      exact ⟨by simpa [Obs.isAccepted, Obs.isEnded] using hcount, hright.append trivial⟩

theorem submit (h : Counted r pending) (args : RequestArgs H) :
    Counted (r.submit args) pending :=
  ⟨by simpa [Requests.submit, Obs.isAccepted, Obs.isEnded] using h.count, h.right.append trivial⟩

/-- The handler of a call that was not accepted is told anything. -/
theorem tell (h : Counted r pending) {n : Nat} (hn : .accepted n ∉ r.trace) (handler : Option H)
    (ec : Option ErrorCode) (response : HttpResponse) :
    Counted (r.tell n handler ec response) pending := by
  cases handler with
  | none => simpa [Requests.tell, answers] using h
  | some a =>
    exact ⟨by simpa [Requests.tell, answers, Obs.isAccepted, Obs.isEnded] using h.count,
      h.right.append fun hmem => absurd hmem hn⟩

/-- An accepted request is one more that has not ended. -/
theorem accept (h : Counted r pending) (n : Nat) (conn : ConnContext H) :
    Counted (r.accept n conn) (pending + 1) := by
  refine ⟨?_, h.right.append trivial⟩
  have := h.count
  simp only [Requests.accept, List.countP_append, List.countP_singleton, Obs.isAccepted,
    Obs.isEnded, if_true]
  simp only [Bool.false_eq_true, if_false]
  omega

/-- A request ends. Its handler, if it has one, is told `told`. -/
theorem finish (h : Counted r (pending + 1)) (n : Nat) {handler : Option H}
    (ec : Option ErrorCode) (response : HttpResponse) {told : Nat}
    (htold : handler ≠ none → told = pending) :
    Counted (r.finish n handler ec response told) pending := by
  have hended : Counted { r with pending := told, trace := r.trace ++ [.ended n] } pending := by
    refine ⟨?_, h.right.append trivial⟩
    have := h.count
    simp only [List.countP_append, List.countP_singleton, Obs.isAccepted, Obs.isEnded, if_true]
    simp only [Bool.false_eq_true, if_false]
    omega
  cases handler with
  | none => exact hended
  | some a =>
    have hright := hended.right.append (o := .answered n a ec response told) fun _ => by
      rw [hended.unended]
      exact htold (by simp)
    refine ⟨?_, ?_⟩
    · have := hended.count
      simpa [Requests.finish, answers, List.countP_cons, Obs.isAccepted, Obs.isEnded] using this
    · simpa [Requests.finish, answers] using hright

end Counted

/-! ## The functions of the client -/

/-- The counter is right, and every handler of an accepted request was told so. -/
def Truthful (r : Requests H) : Prop := Counted r r.pending

namespace Truthful

variable {r r' : Requests H} {c : Client H}

/-- Curl leaves the counter alone. -/
theorem curl (h : Truthful r) (hp : Relation.ReflTransGen Requests.Progress r r') :
    Truthful r' := by
  have hpending : r'.pending = r.pending := (curl_frame hp).2.1
  unfold Truthful
  rw [hpending]
  exact Counted.curl h hp

/-- `check_multi_info()` takes the request off the counter, then calls its handler. -/
theorem handleMessage (h : Truthful c.requests) (hs : Serving c.requests) {msg : Message}
    {messages : List Message} (hmessages : c.curl.messages = msg :: messages) :
    Truthful ({ c with curl := { c.curl with messages := messages } }.handleMessage
      msg).requests := by
  obtain ⟨-, hhandle⟩ := hs.message_mem hmessages
  obtain ⟨conn, hconn⟩ := hs.exists_connection hhandle
  obtain ⟨r, hprogress, hr⟩ := Client.handleMessage_requests
    (c := { c with curl := { c.curl with messages := messages } }) msg hconn
  have hcounted : Truthful r := by
    refine Truthful.curl ?_ hprogress
    exact ⟨h.count, h.right⟩
  have hpos : 0 < r.pending := by
    rw [show r.pending = c.requests.pending from (curl_frame hprogress).2.1, hs.pending]
    exact List.length_pos_of_mem hhandle
  have hbefore : Counted r (r.pending - 1 + 1) := by
    rw [Nat.sub_add_cancel hpos]
    exact hcounted
  rw [hr]
  exact hbefore.finish msg.easy _ _ fun _ => rfl

theorem keptByCurl : KeptByCurl (Truthful (H := H)) where
  progress := fun h hp => h.curl hp
  message := fun h hs hmessages => h.handleMessage hs hmessages

theorem submit (h : Truthful r) (args : RequestArgs H) : Truthful (r.submit args) :=
  Counted.submit h args

/-- The handler of a call that is rejected may be told anything. -/
theorem reject (h : Truthful r) {n : Nat} {args : RequestArgs H} (hasked : Asked r n args)
    (ec : Option ErrorCode) : Truthful (r.tell n args.handler ec {}) := by
  refine Counted.tell h (fun hmem => ?_) args.handler ec {}
  have habout : Obs.accepted n ∈ r.about n :=
    List.mem_filter.mpr ⟨hmem, by simp [Obs.isAbout]⟩
  rw [hasked.about] at habout
  simp at habout

/-- The handler of a call that is rejected is told nothing about an accepted request. -/
theorem startRequest {n : Nat} {args : RequestArgs H} (h : Truthful c.requests)
    (hasked : Asked c.requests n args) {conn : ConnContext H}
    (hhandler : conn.handler = args.handler) (hbody : conn.responseBody = [])
    (hheaders : conn.responseHeaders = []) (method : HttpMethod) (easyInit : Bool) :
    Truthful (c.startRequest n conn method easyInit).requests := by
  have hspec := c.startRequest_spec n conn method easyInit
  generalize c.startRequest n conn method easyInit = c' at hspec
  cases hspec with
  | rejected hcode =>
    rw [Client.answer_requests, hhandler]
    exact h.reject hasked _
  | failed hadd =>
    have hprogress := Client.curlMultiAddHandle_failed hadd
    rw [Client.answer_requests, hhandler]
    exact (h.curl hprogress).reject (hasked.curl hprogress) _
  | added options hmulti heasy hadd =>
    obtain ⟨r, hprogress, hr⟩ :=
      Client.curlMultiAddHandle_accept { conn with easy := some options } hadd
    have hmulti' : r.multi = true := (curl_frame hprogress).2.2.1.trans hmulti
    refine keptByCurl.socketAction ?_ ?_
    · rw [hr]
      exact Counted.accept (h.curl hprogress) n _
    · rw [hr]
      exact (hasked.curl hprogress).accept hmulti' ⟨hhandler, rfl, hbody, hheaders⟩

/-- `do_request()` keeps the counter right: one case for each way it can go. -/
theorem doRequest (h : Truthful c.requests) (hs : Serving c.requests) (args : RequestArgs H)
    (easyInit : Bool) : Truthful (c.doRequest args easyInit).requests := by
  have hasked : Asked (Client.requests { c.log (.submitted c.calls args) with
      calls := c.calls + 1 }) c.calls args := hs.submit args
  have hsubmitted : Truthful (Client.requests { c.log (.submitted c.calls args) with
      calls := c.calls + 1 }) := h.submit args
  unfold Client.doRequest
  simp only
  split
  · rw [Client.answer_requests]
    exact hsubmitted.reject hasked _
  · exact hsubmitted.startRequest hasked rfl rfl rfl args.method easyInit

end Truthful

/-! ## `do_cancel()` when it calls no handler -/

/-- `do_cancel()` runs only when no handler of an accepted request is outstanding. -/
def noHandlerOutstanding : Guard (Client H) (Event H)
  | c, .cancel _ _ => ∀ entry ∈ c.connections.entries, entry.2.handler.isNone
  | _, _ => True

instance (c : Client H) (e : Event H) : Decidable (noHandlerOutstanding c e) :=
  match e with
  | .cancel _ _ =>
    inferInstanceAs (Decidable (∀ entry ∈ c.connections.entries, entry.2.handler.isNone))
  | .request _ _ _ | .setCaCertificate _ | .watch _ _ _ | .timer _ _ | .ready _ _ | .tick _
  | .expire _ => isTrue trivial

/-- A connection that ends without a handler to call is one less. -/
theorem Counted.cancelConnection {c : Client H} {pending : Nat}
    (h : Counted c.requests (pending + 1)) (n : Nat) {conn : ConnContext H}
    (hnone : conn.handler = none) : Counted (c.cancelConnection n conn).requests pending := by
  unfold Client.cancelConnection
  simp only
  rw [Client.finish_requests]
  refine Counted.finish ?_ n _ _ fun hsome => absurd hnone hsome
  split
  · refine Counted.curl ?_ (c.curlMultiRemoveHandle_progress n)
    exact ⟨h.count, h.right⟩
  · exact h

/-- Without a handler to call `do_cancel()` ends them all before it stores zero. -/
theorem Truthful.doCancel {c : Client H} (h : Truthful c.requests) (hs : Serving c.requests)
    {order : List Nat} (horder : order.Perm c.connections.keys)
    (hnone : ∀ entry ∈ c.connections.entries, entry.2.handler.isNone) :
    Truthful (c.doCancel order).requests := by
  have hlength : order.length = c.requests.pending := by
    rw [hs.pending]
    exact (horder.trans hs.keys).length_eq
  have hlookup : ∀ n ∈ order, ∃ conn, c.connections.lookup n = some conn ∧
      conn.handler = none := fun n hn => by
    obtain ⟨conn, hconn⟩ := hs.exists_connection ((horder.trans hs.keys).mem_iff.mp hn)
    have hentry := hnone _ (AList.mem_lookup_iff.mp hconn)
    exact ⟨conn, hconn, Option.isNone_iff_eq_none.mp hentry⟩
  have hstart : Counted (Client.requests { c with timer := c.timer.cancel, connections := ∅ })
      order.length := hlength ▸ ⟨h.count, h.right⟩
  rw [Client.doCancel_requests]
  have hend : Counted (c.cancelConnections order).requests 0 ∧ [] ⊆ order := by
    refine Client.cancelConnections_rule
      (I := fun c' rest => Counted c'.requests rest.length ∧ rest ⊆ order)
      ⟨hstart, List.Subset.refl _⟩ fun c' n rest ⟨hcounted, hrest⟩ => ?_
    obtain ⟨conn, hconn, hhandler⟩ := hlookup n (hrest List.mem_cons_self)
    exact ⟨conn, hconn, hcounted.cancelConnection n hhandler,
      fun m hm => hrest (List.mem_cons_of_mem _ hm)⟩
  exact ⟨hend.1.count, hend.1.right⟩

/-! ## The whole system -/

/-- One step preserves `Truthful`, unless `do_cancel()` calls a handler in it. -/
theorem Truthful.step {c c' : Client H} {e : Event H} (h : Truthful c.requests)
    (hs : Serving c.requests) (hok : noHandlerOutstanding c e) (he : step c e = some c') :
    Truthful c'.requests := by
  cases step_spec he with
  | request args easyInit script hscript =>
    exact Truthful.doRequest (c := { c with script := script }) h hs args easyInit
  | cancel script horder hscript =>
    exact Truthful.doCancel (c := { c with script := script }) h hs horder hok
  | watch script hdeliver hscript =>
    refine Truthful.keptByCurl.eventCallback ?_ ?_ _
    · exact h
    · exact hs
  | timer script hwait hdeliver => exact Truthful.keptByCurl.asioTimerCallback h hs
  | setCaCertificate | watchAborted | timerAborted | ready | tick | expire => exact h

/-- The counter is right in every run whose `do_cancel()` calls no handler. -/
theorem truthful_of_reachable {c : Client H} (hr : Reachable (system H) noHandlerOutstanding c) :
    Truthful c.requests := by
  have hboth : Serving c.requests ∧ Truthful c.requests := by
    refine hr.invariant (I := fun c => Serving c.requests ∧ Truthful c.requests) ?_
      fun c e c' h hok he => ⟨h.1.step he, h.2.step h.1 hok he⟩
    rintro c ⟨multi, now, rfl⟩
    refine ⟨.init multi now, rfl, fun past o rest heq => ?_⟩
    simp [Client.create, Client.requests] at heq
  exact hboth.2

/-- **What a response handler is told.** In every run in which `do_cancel()` calls no
handler, `pending_count()` tells the handler of an accepted request how many
accepted requests have not ended, its own being one that has; and between two
callbacks that is what `pending_count()` tells anyone. -/
theorem pending_count_right {c : Client H} (hr : Reachable (system H) noHandlerOutstanding c) :
    PendingCountRight c.trace ∧ c.pending = unended c.trace := by
  have h := truthful_of_reachable hr
  exact ⟨h.right, h.unended.symm⟩

/-- A request is rejected, two are accepted, the first of them ends, and then the
other. At last `do_cancel()` finds nothing. -/
def twoDoneThenCancel : List (Event Nat) :=
  [.request { getRoot 0 with method := .other 99 } true [],
    .request (getRoot 1) true [{ calls := [.timer 0] }, {}],
    .request (getRoot 2) true [{ calls := [.timer 0] }, { calls := [.done 1 .ok 204] }, {}],
    .tick 1,
    .expire ⟨0, .armed, 1⟩,
    .timer ⟨0, .fired, 1⟩ [{ calls := [.done 2 .couldntConnect 0] }, {}],
    .cancel [] []]

/-- Two requests are done, and `do_cancel()` finds nothing. -/
theorem pending_count_right_twoDoneThenCancel :
    ∃ c, run (system Nat) noHandlerOutstanding (Client.create true 0) twoDoneThenCancel = some c ∧
      PendingCountRight c.trace ∧ c.pending = unended c.trace := by
  have hsome : (run (system Nat) noHandlerOutstanding (Client.create true 0)
      twoDoneThenCancel).isSome = true := by decide
  obtain ⟨c, hrun⟩ := Option.isSome_iff_exists.mp hsome
  exact ⟨c, hrun, pending_count_right
    ⟨_, ⟨true, 0, rfl⟩, Path.of_run twoDoneThenCancel hrun⟩⟩

/-- Cancelled, the only request there is: its handler is told that it is pending. -/
theorem not_pendingCountRight_cancel :
    ∃ c, Reachable (system Nat) anyStep c ∧ ¬ PendingCountRight c.trace := by
  have htrace : (run (system Nat) anyStep (Client.create true 0)
      [.request (getRoot 0) true [{ calls := [.timer 0] }, {}], .cancel [0] [{}]]).map
        (·.trace) = some ([.submitted 0 (getRoot 0), .accepted 0, .ended 0] ++
          .answered 0 0 (some (.errc .operationCanceled)) {} 1 :: []) := by decide
  obtain ⟨c, hrun, htrace⟩ := Option.map_eq_some_iff.mp htrace
  refine ⟨c, ⟨_, ⟨true, 0, rfl⟩, Path.of_run _ hrun⟩, fun hright => ?_⟩
  have htold : 1 = unended _ := hright _ _ _ htrace (by simp)
  exact absurd htold (by decide)

end CppComponents.HttpsMultiplexClient
