import CppComponents.HttpsMultiplexClient.Url

/-!
# The options of a transfer

`apply_method()` and `configure_easy_handle()` write a request down as options of an easy
handle, one `curl_easy_setopt()` after the other, some of them only for some methods, some
only if there is something to set. `RequestArgs.options` is the whole of what a request is
to be written down as, and `options_configure` says that it is.

The options are set before the handle is added and nothing sets them later. So in every
run each connection has those of its own request, with the certificate file that was set
when the request was made (`options_of_request`). What curl makes of them is up to curl.
-/

namespace CppComponents.HttpsMultiplexClient

open CppComponents.Transition

variable {H : Type}

/-! ## The options a request asks for -/

/-- The body of a request. GET and HEAD have none, and DELETE has one if it is not empty. -/
def RequestArgs.sentBody (args : RequestArgs H) : Option Text :=
  match args.method with
  | .get | .head | .other _ => none
  | .del => if args.body = [] then none else some args.body
  | .post | .put | .patch => some args.body

/-- GET, HEAD and POST each have an option of their own; the other methods go by name. -/
def RequestArgs.customRequest (args : RequestArgs H) : Option Text :=
  match args.method with
  | .get | .head | .post | .other _ => none
  | .put | .del | .patch => (toCurlMethod args.method).map String.toList

def RequestArgs.options (args : RequestArgs H) (caCertificateFile : Text) : EasyOptions where
  httpGet := args.method = .get
  noBody := args.method = .head
  post := args.method = .post
  customRequest := args.customRequest
  postFields := args.sentBody
  url := "https://".toList ++ args.host ++ ":".toList ++ args.port ++ args.target
  timeoutMs := max args.timeout 0
  connectTimeoutMs := if 0 < args.timeout then args.timeout else 5000
  caInfo := if caCertificateFile = [] then none else some caCertificateFile
  httpHeader := args.headers.map HttpHeader.render

/-- `apply_method()` sets the options for the method and the body, and no others. -/
theorem applyMethod_options {args : RequestArgs H} {easy : EasyOptions}
    (happly : Client.applyMethod {} args.method (requestConn args) = (none, easy)) :
    easy = { ({} : EasyOptions) with
      httpGet := args.method = .get
      noBody := args.method = .head
      post := args.method = .post
      customRequest := args.customRequest
      postFields := args.sentBody } := by
  unfold RequestArgs.sentBody RequestArgs.customRequest
  cases hmethod : args.method with
  | get | head | post | put | patch | del =>
    rw [hmethod] at happly
    cases happly
    rfl
  | other value =>
    rw [hmethod] at happly
    cases happly

/-- **The options say what was asked for.** -/
theorem options_configure (c : Client H) {args : RequestArgs H} {easy easy' : EasyOptions}
    (happly : Client.applyMethod {} args.method (requestConn args) = (none, easy))
    (hconfigure : c.configureEasyHandle easy (requestConn args) = (none, easy')) :
    easy' = args.options c.caCertificateFile := by
  obtain rfl := applyMethod_options happly
  obtain ⟨-, rfl⟩ := Prod.mk.inj hconfigure
  have htimeout : (if args.timeout > 0 then args.timeout else 0) = max args.timeout 0 := by
    split <;> omega
  have hconnect : (if (if args.timeout > 0 then args.timeout else 0) > 0 then
      (if args.timeout > 0 then args.timeout else 0) else 5000) =
      if 0 < args.timeout then args.timeout else 5000 := by
    split <;> simp_all
  -- an empty list of headers is not set, and the default is the empty list
  have hheaders : (if args.headers.map HttpHeader.render = [] then []
      else args.headers.map HttpHeader.render) = args.headers.map HttpHeader.render := by
    split
    · rename_i hnil
      exact hnil.symm
    · rfl
  rw [RequestArgs.options, EasyOptions.mk.injEq]
  exact ⟨rfl, rfl, rfl, rfl, rfl, rfl, htimeout, hconnect, rfl, hheaders⟩

/-! ## The options are set once -/

/-- No request is made and no connection added, and connections keep their options. -/
structure Shrinks (r r' : Requests H) : Prop where
  calls : r'.calls = r.calls
  easy : ∀ n conn', r'.connections.lookup n = some conn' →
    ∃ conn, r.connections.lookup n = some conn ∧ conn'.easy = conn.easy

namespace Shrinks

variable {r r₁ r₂ r' : Requests H}

theorem of_eq (hcalls : r'.calls = r.calls) (hconnections : r'.connections = r.connections) :
    Shrinks r r' :=
  ⟨hcalls, fun _ conn hconn => ⟨conn, hconnections ▸ hconn, rfl⟩⟩

/-- Steps compose. -/
theorem trans (h₁ : Shrinks r r₁) (h₂ : Shrinks r₁ r₂) : Shrinks r r₂ where
  calls := h₂.calls.trans h₁.calls
  easy := fun n conn₂ hconn₂ => by
    obtain ⟨conn₁, hconn₁, heasy₂⟩ := h₂.easy n conn₂ hconn₂
    obtain ⟨conn, hconn, heasy₁⟩ := h₁.easy n conn₁ hconn₁
    exact ⟨conn, hconn, heasy₂.trans heasy₁⟩

/-- What is not a connection may change before. -/
theorem start (h : Shrinks r₁ r₂) (hcalls : r₁.calls = r.calls)
    (hconnections : r₁.connections = r.connections) : Shrinks r r₂ :=
  (of_eq hcalls hconnections).trans h

/-- Data of a transfer is stored in its connection, whose options stay. -/
theorem progress (hp : r.Progress r') : Shrinks r r' := by
  cases hp with
  | same | done => exact .of_eq rfl rfl
  | @data n hn data =>
    refine ⟨rfl, fun m conn hconn => ?_⟩
    rw [lookup_applyData, Option.map_eq_some_iff] at hconn
    obtain ⟨conn', hconn', rfl⟩ := hconn
    refine ⟨conn', hconn', ?_⟩
    split
    · cases data <;> rfl
    · rfl

theorem curl (hp : Relation.ReflTransGen Requests.Progress r r') : Shrinks r r' := by
  induction hp with
  | refl => exact .of_eq rfl rfl
  | tail _ hstep ih => exact ih.trans (.progress hstep)

theorem removeHandle (c : Client H) (n : Nat) :
    Shrinks c.requests (c.curlMultiRemoveHandle n).requests :=
  .start (.curl (c.curlMultiRemoveHandle_progress n)) rfl rfl

theorem answer (c : Client H) (n : Nat) (handler : Option H) (ec : Option ErrorCode)
    (response : HttpResponse) : Shrinks c.requests (c.answer n handler ec response).requests := by
  rw [Client.answer_requests]
  exact .of_eq rfl rfl

/-- A message takes its connection out of the map. -/
theorem handleMessage (c : Client H) (msg : Message) :
    Shrinks c.requests (c.handleMessage msg).requests := by
  unfold Client.handleMessage
  split
  · exact .start (removeHandle (c.log .notFound) msg.easy) rfl rfl
  · rename_i conn _
    have herased : Shrinks c.requests
        (Client.requests { c with connections := c.connections.erase msg.easy }) := by
      refine ⟨rfl, fun n conn' hconn' => ⟨conn', ?_, rfl⟩⟩
      have hconn' : (c.connections.erase msg.easy).lookup n = some conn' := hconn'
      by_cases hne : n = msg.easy
      · rw [hne, AList.lookup_erase] at hconn'
        cases hconn'
      · rwa [AList.lookup_erase_ne hne] at hconn'
    refine (herased.trans (removeHandle _ msg.easy)).trans ?_
    exact .start (answer _ msg.easy conn.handler _ _) rfl rfl

/-- By induction on the fuel: so does each message of the loop. -/
theorem readMessages (fuel : Nat) :
    ∀ c : Client H, Shrinks c.requests (c.readMessages fuel).requests := by
  induction fuel with
  | zero => exact fun c => .of_eq rfl rfl
  | succ fuel ih =>
    intro c
    rw [Client.readMessages]
    split
    · exact .of_eq rfl rfl
    · rename_i msg messages _
      exact .trans (.start (handleMessage { c with
        curl := { c.curl with messages := messages } } msg) rfl rfl) (ih _)

/-- A socket action starts no request. -/
theorem socketAction (c : Client H) : Shrinks c.requests c.socketAction.requests := by
  have haction : Shrinks c.requests c.curlMultiSocketAction.2.requests :=
    .curl c.curlMulti_progress
  unfold Client.socketAction
  generalize c.curlMultiSocketAction = action at haction
  obtain ⟨_ | _, c₁⟩ := action
  · exact haction
  · exact haction.trans (readMessages _ c₁)

/-- Nor does the callback of a socket. -/
theorem eventCallback (c : Client H) (id : Nat) :
    Shrinks c.requests (c.eventCallback id).requests := by
  rcases c.eventCallback_requests id with heq | heq
  · rw [heq]
    exact .of_eq rfl rfl
  · rw [heq]
    exact socketAction c

/-- Nor does the callback of the timer. -/
theorem asioTimerCallback (c : Client H) : Shrinks c.requests c.asioTimerCallback.requests := by
  rw [Client.asioTimerCallback_eq]
  split
  · exact socketAction c
  · exact .of_eq rfl rfl

/-- `do_cancel()` empties the map. -/
theorem doCancel (c : Client H) (order : List Nat) :
    Shrinks c.requests (c.doCancel order).requests := by
  have hempty : Shrinks c.requests
      (Client.requests { c with timer := c.timer.cancel, connections := ∅ }) :=
    ⟨rfl, fun n conn hconn => by cases hconn⟩
  have hcancelled : Shrinks c.requests (c.cancelConnections order).requests := by
    refine List.foldlRecOn (motive := fun c' : Client H => Shrinks c.requests c'.requests)
      order _ hempty fun c' hshrinks n _ => ?_
    split
    · exact hshrinks
    · rename_i conn _
      refine hshrinks.trans ?_
      unfold Client.cancelConnection
      simp only
      split
      · exact (removeHandle c' n).trans (.start (answer _ n conn.handler _ _) rfl rfl)
      · exact .start (answer _ n conn.handler _ _) rfl rfl
  rw [Client.doCancel_requests]
  exact hcancelled.trans (.of_eq rfl rfl)

end Shrinks

/-- `start_request()` adds one connection, with the options it has set, or none. -/
theorem Client.startRequest_adds (c : Client H) (n : Nat) (conn : ConnContext H)
    (method : HttpMethod) (easyInit : Bool) :
    Shrinks c.requests (c.startRequest n conn method easyInit).requests ∨
      ∃ easy easy' r, applyMethod {} method conn = (none, easy) ∧
        c.configureEasyHandle easy conn = (none, easy') ∧ Shrinks c.requests r ∧
        Shrinks (r.accept n { conn with easy := some easy' })
          (c.startRequest n conn method easyInit).requests := by
  unfold startRequest
  split
  · exact .inl (.answer ..)
  · split
    · exact .inl (.answer ..)
    · obtain ⟨code, easy, happly⟩ : ∃ code easy, applyMethod {} method conn = (code, easy) :=
        ⟨_, _, rfl⟩
      obtain ⟨easy', hconfigure⟩ : ∃ easy', c.configureEasyHandle easy conn = (none, easy') :=
        ⟨_, rfl⟩
      rw [happly]
      cases code with
      | some code => exact .inl (.answer ..)
      | none =>
        simp only [hconfigure]
        cases hadd : c.curlMultiAddHandle n with
        | mk added c' =>
          cases added with
          | false => exact .inl (.trans (.curl (curlMultiAddHandle_failed hadd)) (.answer ..))
          | true =>
            obtain ⟨r, hprogress, hr⟩ :=
              curlMultiAddHandle_accept { conn with easy := some easy' } hadd
            refine .inr ⟨easy, easy', r, rfl, hconfigure, .curl hprogress, ?_⟩
            rw [← hr]
            exact .socketAction (c'.accept n { conn with easy := some easy' })

/-! ## Whole runs -/

/-- The call of `do_request()` that an event is, with the certificate file that is set. -/
def Client.asks (c : Client H) : Event H → List (RequestArgs H × Text)
  | .request args _ _ => [(args, c.caCertificateFile)]
  | _ => []

/-- The calls of `do_request()` so far. -/
def asking (H : Type) : System (Client H × List (RequestArgs H × Text)) (Event H) :=
  (system H).record [] fun asked c e _ => asked ++ c.asks e

/-- Every connection has the options of its own request. -/
structure Configured (r : Requests H) (asked : List (RequestArgs H × Text)) : Prop where
  calls : asked.length = r.calls
  options : ∀ n conn, r.connections.lookup n = some conn → ∃ args file,
    asked[n]? = some (args, file) ∧ conn.easy = some (args.options file)

namespace Configured

variable {r r' : Requests H} {asked : List (RequestArgs H × Text)}

/-- The connections that are left have the options they had. -/
theorem shrink (h : Configured r asked) (hs : Shrinks r r') : Configured r' asked where
  calls := h.calls.trans hs.calls.symm
  options := fun n conn' hconn' => by
    obtain ⟨conn, hconn, heasy⟩ := hs.easy n conn' hconn'
    rw [heasy]
    exact h.options n conn hconn

/-- A request is made. -/
theorem submit (h : Configured r asked) (args : RequestArgs H) (file : Text) :
    Configured (r.submit args) (asked ++ [(args, file)]) where
  calls := by
    rw [List.length_append, h.calls]
    rfl
  options := fun n conn hconn => by
    obtain ⟨args', file', hasked, heasy⟩ := h.options n conn hconn
    refine ⟨args', file', ?_, heasy⟩
    rw [List.getElem?_append_left (List.getElem?_eq_some_iff.mp hasked).1]
    exact hasked

/-- An accepted request is configured with the options of its own arguments. -/
theorem accept (h : Configured r asked) {n : Nat} {conn : ConnContext H} {args : RequestArgs H}
    {file : Text} (hasked : asked[n]? = some (args, file))
    (heasy : conn.easy = some (args.options file)) :
    Configured (r.accept n conn) asked where
  calls := h.calls
  options := fun m conn' hconn' => by
    have hconn' : (r.connections.insert n conn).lookup m = some conn' := hconn'
    by_cases hne : m = n
    · subst hne
      rw [AList.lookup_insert, Option.some.injEq] at hconn'
      subst hconn'
      exact ⟨args, file, hasked, heasy⟩
    · rw [AList.lookup_insert_ne hne] at hconn'
      exact h.options m conn' hconn'

/-- `do_request()` adds its own call to what was asked, whatever becomes of it. -/
theorem doRequest {c : Client H} (h : Configured c.requests asked) (args : RequestArgs H)
    (easyInit : Bool) : Configured (c.doRequest args easyInit).requests
      (asked ++ [(args, c.caCertificateFile)]) := by
  have hsubmitted := h.submit args c.caCertificateFile
  have hasked : (asked ++ [(args, c.caCertificateFile)])[c.calls]? =
      some (args, c.caCertificateFile) := by
    have hcalls : asked.length = c.calls := h.calls
    rw [← hcalls, List.getElem?_concat_length]
  rw [Client.doRequest_eq]
  simp only
  split
  · exact hsubmitted.shrink (.answer { c.log (.submitted c.calls args) with
      calls := c.calls + 1 } c.calls args.handler _ {})
  · rcases Client.startRequest_adds { c.log (.submitted c.calls args) with calls := c.calls + 1 }
      c.calls (requestConn args) args.method easyInit with
      hshrinks | ⟨easy, easy', r, happly, hconfigure, hcurl, hshrinks⟩
    · exact hsubmitted.shrink hshrinks
    · refine Configured.shrink ?_ hshrinks
      refine (hsubmitted.shrink hcurl).accept hasked ?_
      exact congrArg some (options_configure _ happly hconfigure)

/-- One case for each event: only `do_request()` adds a connection. -/
theorem step {c c' : Client H} {e : Event H} (h : Configured c.requests asked)
    (he : step c e = some c') : Configured c'.requests (asked ++ c.asks e) := by
  have hnone : asked ++ [] = asked := List.append_nil asked
  cases step_spec he with
  | request args easyInit script =>
    exact Configured.doRequest (c := { c with script := script }) h args easyInit
  | cancel script => exact (hnone.symm ▸ h).shrink (.doCancel { c with script := script } _)
  | @watch id _ socket script =>
    exact (hnone.symm ▸ h).shrink (.eventCallback { c.updateSocket id fun _ => socket with
      script := script } id)
  | @timer wait timer script =>
    exact (hnone.symm ▸ h).shrink (.asioTimerCallback { c with
      timer := timer
      curl := { c.curl with
        timeout := if c.curl.timeout = some wait.tag then none else c.curl.timeout }
      script := script })
  | setCaCertificate | watchAborted | timerAborted | ready | tick | expire => exact hnone.symm ▸ h

end Configured

/-- In every reachable state each connection has the options of the call that it belongs
to. -/
theorem configured_of_reachable {c : Client H} {asked : List (RequestArgs H × Text)}
    (hr : Reachable (asking H) anyStep (c, asked)) : Configured c.requests asked := by
  have hr : Reachable (asking H) (fun p e => anyStep p.1 e) (c, asked) := hr
  refine hr.record_invariant (I := fun c asked => Configured c.requests asked) ?_
    fun c asked e c' h _ he => h.step he
  rintro c ⟨multi, now, rfl⟩
  exact ⟨rfl, fun n conn hconn => by cases hconn⟩

/-- A request with two header fields, and no time limit. -/
def putStatus : RequestArgs Nat where
  method := .put
  host := "localhost".toList
  port := "443".toList
  target := "/status".toList
  body := "{}".toList
  headers := [⟨"TE".toList, []⟩, ⟨"Via".toList, "a".toList⟩]
  timeout := -1
  handler := none

end CppComponents.HttpsMultiplexClient
