import CppComponents.HttpsMultiplexClient.Headers
import CppComponents.Uri

/-!
# Where a request is sent

`do_request()` makes the URL of a request by concatenation, and curl finds the host
and the port by splitting it again. The target is not looked at before, so it is part
of the authority up to its first slash, question mark or number sign: `request_url`
says that the URL names the host and the port of the request exactly if the target
begins with one of them or is empty.

`Addressed` is the invariant that connects this with the requests in the multi: every
connection has the URL that was made of its own request.
-/

namespace CppComponents.HttpsMultiplexClient

open CppComponents.Transition CppComponents.Uri

variable {H : Type}

/-! ## The URL of a request -/

/-- The characters of DNS names and IPv4 addresses, and some that are in neither. -/
def isHostChar (a : Char) : Bool := a.isAlphanum || a = '-' || a = '_' || a = '.'

/-- Every DNS name and every IPv4 address is one of these. -/
def IsHost (host : Text) : Prop := host ≠ [] ∧ host.all isHostChar = true

/-- A decimal number. -/
def IsPort (port : Text) : Prop := port ≠ [] ∧ port.all Char.isDigit = true

instance (host : Text) : Decidable (IsHost host) := inferInstanceAs (Decidable (_ ∧ _))

instance (port : Text) : Decidable (IsPort port) := inferInstanceAs (Decidable (_ ∧ _))

theorem plain_of_isHostChar {text : Text} (h : ∀ a ∈ text, isHostChar a = true) : Plain text where
  colon hmem := absurd (h _ hmem) (by decide)
  atSign hmem := absurd (h _ hmem) (by decide)
  delimiter a ha := by
    by_contra hdelimiter
    simp only [isDelimiter, Bool.not_eq_false, Bool.or_eq_true, decide_eq_true_eq] at hdelimiter
    rcases hdelimiter with (rfl | rfl) | rfl <;> exact absurd (h _ ha) (by decide)

theorem IsHost.plain {host : Text} (h : IsHost host) : Plain host :=
  plain_of_isHostChar (List.all_eq_true.mp h.2)

theorem IsPort.plain {port : Text} (h : IsPort port) : Plain port :=
  plain_of_isHostChar fun a ha => by
    have hdigit := List.all_eq_true.mp h.2 a ha
    simp [isHostChar, Char.isAlphanum, hdigit]

/-- The host and the port a request is sent to. -/
def requestAuthority (args : RequestArgs H) : Option Authority :=
  (split (requestConn args).url).map Parts.authority

theorem requestAuthority_iff {args : RequestArgs H} (hhost : IsHost args.host)
    (hport : IsPort args.port) :
    requestAuthority args = some ⟨none, args.host, some args.port⟩ ↔
      EndsAuthority args.target := by
  have hurl : (requestConn args).url =
      "https".toList ++ ':' :: '/' :: '/' :: (args.host ++ ':' :: (args.port ++ args.target)) := by
    simp [requestConn]
  rw [requestAuthority, hurl]
  exact authority_of_parts (by decide) hhost.plain hport.plain args.target

/-! ## The connections in the map -/

/-- Every connection has the URL of its own request. -/
def Addressed (r : Requests H) : Prop :=
  ∀ n conn, r.connections.lookup n = some conn →
    ∃ args, .submitted n args ∈ r.trace ∧ conn.url = (requestConn args).url

namespace Addressed

variable {r r' : Requests H} {c : Client H}

/-- Connections leave the map, and more is recorded. -/
theorem shrink (h : Addressed r) (hconnections : ∀ n conn, r'.connections.lookup n = some conn →
    r.connections.lookup n = some conn) (htrace : ∀ o ∈ r.trace, o ∈ r'.trace) :
    Addressed r' := by
  intro n conn hconn
  obtain ⟨args, hsubmitted, hurl⟩ := h n conn (hconnections n conn hconn)
  exact ⟨args, htrace _ hsubmitted, hurl⟩

theorem progress (h : Addressed r) (hp : r.Progress r') : Addressed r' := by
  cases hp with
  | same => exact h
  | @data n hn data =>
    intro m conn hconn
    rw [lookup_applyData, Option.map_eq_some_iff] at hconn
    obtain ⟨conn', hconn', hdata⟩ := hconn
    have hurl : conn.url = conn'.url := by
      rw [← hdata]
      split
      · cases data <;> rfl
      · rfl
    obtain ⟨args, hsubmitted, hargs⟩ := h m conn' hconn'
    exact ⟨args, List.mem_append_left _ hsubmitted, hurl.trans hargs⟩
  | done => exact h.shrink (fun _ _ => id) fun o ho => List.mem_append_left _ ho

theorem curl (h : Addressed r) (hp : Relation.ReflTransGen Requests.Progress r r') :
    Addressed r' := by
  induction hp with
  | refl => exact h
  | tail _ hstep ih => exact ih.progress hstep

theorem handleMessage (h : Addressed c.requests) (hs : Serving c.requests) {msg : Message}
    {messages : List Message} (hmessages : c.curl.messages = msg :: messages) :
    Addressed ({ c with curl := { c.curl with messages := messages } }.handleMessage
      msg).requests := by
  obtain ⟨-, hhandle⟩ := hs.message_mem hmessages
  obtain ⟨conn, hconn⟩ := hs.exists_connection hhandle
  obtain ⟨r, hprogress, hr⟩ := Client.handleMessage_requests
    (c := { c with curl := { c.curl with messages := messages } }) msg hconn
  have hremoved : Addressed ((Client.requests { c with
      curl := { c.curl with messages := messages } }).remove msg.easy
        (c.connections.erase msg.easy)) := by
    refine h.shrink (fun n conn' hlookup => ?_) fun _ => id
    have hlookup : (c.connections.erase msg.easy).lookup n = some conn' := hlookup
    by_cases hne : n = msg.easy
    · rw [hne, AList.lookup_erase] at hlookup
      cases hlookup
    · rwa [AList.lookup_erase_ne hne] at hlookup
  rw [hr]
  exact (hremoved.curl hprogress).shrink (fun _ _ => id) fun o ho => List.mem_append_left _ ho

theorem keptByCurl : KeptByCurl (Addressed (H := H)) where
  progress := fun h hp => h.curl hp
  message := fun h hs hmessages => h.handleMessage hs hmessages

theorem tell (h : Addressed r) (n : Nat) (handler : Option H) (ec : Option ErrorCode)
    (response : HttpResponse) : Addressed (r.tell n handler ec response) :=
  h.shrink (fun _ _ => id) fun _ ho => List.mem_append_left _ ho

/-- The URL of a new connection is that of the call that was made. -/
theorem accept (h : Addressed r) {n : Nat} {args : RequestArgs H} (hasked : Asked r n args)
    {conn : ConnContext H} (hurl : conn.url = (requestConn args).url) :
    Addressed (r.accept n conn) := by
  intro m conn' hconn'
  have hconn' : (r.connections.insert n conn).lookup m = some conn' := hconn'
  by_cases hne : m = n
  · subst hne
    rw [AList.lookup_insert, Option.some.injEq] at hconn'
    subst hconn'
    have hsubmitted : .submitted m args ∈ r.about m := by
      rw [hasked.about]
      exact List.mem_singleton.mpr rfl
    exact ⟨args, List.mem_append_left _ (List.mem_of_mem_filter hsubmitted), hurl⟩
  · rw [AList.lookup_insert_ne hne] at hconn'
    obtain ⟨args', hsubmitted, hurl'⟩ := h m conn' hconn'
    exact ⟨args', List.mem_append_left _ hsubmitted, hurl'⟩

theorem doRequest (h : Addressed c.requests) (hs : Serving c.requests) (args : RequestArgs H)
    (easyInit : Bool) : Addressed (c.doRequest args easyInit).requests := by
  have hasked : Asked (Client.requests { c.log (.submitted c.calls args) with
      calls := c.calls + 1 }) c.calls args := hs.submit args
  have hsubmitted : Addressed (Client.requests { c.log (.submitted c.calls args) with
      calls := c.calls + 1 }) :=
    h.shrink (fun _ _ => id) fun _ ho => List.mem_append_left _ ho
  rw [Client.doRequest_eq]
  generalize { c.log (.submitted c.calls args) with calls := c.calls + 1 } = c' at hasked hsubmitted
  simp only
  split
  · rw [Client.answer_requests]
    exact hsubmitted.tell _ _ _ _
  · have hspec := c'.startRequest_spec c.calls (requestConn args) args.method easyInit
    generalize c'.startRequest c.calls (requestConn args) args.method easyInit = c'' at hspec
    cases hspec with
    | rejected hcode =>
      rw [Client.answer_requests]
      exact hsubmitted.tell _ _ _ _
    | failed hadd =>
      rw [Client.answer_requests]
      exact (hsubmitted.curl (Client.curlMultiAddHandle_failed hadd)).tell _ _ _ _
    -- curl runs once the handle is added, and it may already finish the transfer
    | added options hmulti heasy hadd =>
      obtain ⟨r, hprogress, hr⟩ :=
        Client.curlMultiAddHandle_accept { requestConn args with easy := some options } hadd
      have hmulti' : r.multi = true := (curl_frame hprogress).2.2.1.trans hmulti
      have hasked' := hasked.curl hprogress
      refine keptByCurl.socketAction ?_ ?_
      · rw [hr]
        exact (hsubmitted.curl hprogress).accept hasked' rfl
      · rw [hr]
        exact hasked'.accept hmulti' ⟨rfl, rfl, rfl, rfl⟩

/-- `do_cancel()` leaves no connection. -/
theorem doCancel (hs : Serving c.requests) {order : List Nat}
    (horder : order.Perm c.connections.keys) : Addressed (c.doCancel order).requests := by
  have hserving := hs.doCancel horder
  have hnone : (c.doCancel order).requests.handles = [] := by
    have hpending := hserving.pending
    rw [Client.doCancel_requests] at hpending ⊢
    exact List.length_eq_zero_iff.mp hpending.symm
  have hkeys := hserving.keys
  rw [hnone] at hkeys
  have hempty := eq_empty_of_keys (List.perm_nil.mp hkeys)
  intro n conn hconn
  rw [hempty] at hconn
  cases hconn

/-- One step preserves `Addressed`. -/
theorem step {c c' : Client H} {e : Event H} (h : Addressed c.requests) (hs : Serving c.requests)
    (he : step c e = some c') : Addressed c'.requests := by
  cases step_spec he with
  | request args easyInit script hscript =>
    exact Addressed.doRequest (c := { c with script := script }) h hs args easyInit
  | cancel script horder hscript =>
    exact Addressed.doCancel (c := { c with script := script }) hs horder
  | watch script hdeliver hscript =>
    refine Addressed.keptByCurl.eventCallback ?_ ?_ _
    · exact h
    · exact hs
  | timer script hwait hdeliver => exact Addressed.keptByCurl.asioTimerCallback h hs
  | setCaCertificate | watchAborted | timerAborted | ready | tick | expire => exact h

end Addressed

theorem addressed_of_reachable {c : Client H} (hr : Reachable (system H) anyStep c) :
    Addressed c.requests := by
  have hboth : Serving c.requests ∧ Addressed c.requests := by
    refine hr.invariant (I := fun c => Serving c.requests ∧ Addressed c.requests) ?_
      fun c e c' h _ he => ⟨h.1.step he, h.2.step h.1 he⟩
    rintro c ⟨multi, now, rfl⟩
    exact ⟨.init multi now, fun n conn hconn => by cases hconn⟩
  exact hboth.2

/-- **What the target can do.** The URL `do_request()` makes of a request to a host and
a port names them, without user information, if and only if the target is empty or
begins with a slash, a question mark or a number sign; and in every run, that is the
URL of the request's connection for as long as there is one. -/
theorem request_url :
    (∀ args : RequestArgs H, IsHost args.host → IsPort args.port →
      (requestAuthority args = some ⟨none, args.host, some args.port⟩ ↔
        EndsAuthority args.target)) ∧
    ∀ c : Client H, Reachable (system H) anyStep c → ∀ n conn,
      c.connections.lookup n = some conn →
      ∃ args, .submitted n args ∈ c.trace ∧ conn.url = (requestConn args).url :=
  ⟨fun _ hhost hport => requestAuthority_iff hhost hport,
    fun _ hr => addressed_of_reachable hr⟩

/-- A `get()` whose target has no slash at its start. -/
def otherServer : RequestArgs Nat := { getRoot 0 with target := "@example.com/".toList }

/-- The request is sent to another host, and what was the host is user information. -/
theorem requestAuthority_otherServer :
    ¬ ∀ args : RequestArgs Nat, IsHost args.host → IsPort args.port →
      requestAuthority args = some ⟨none, args.host, some args.port⟩ := by
  intro hclaim
  have hother : requestAuthority otherServer =
      some ⟨some "localhost:443".toList, "example.com".toList, none⟩ := by decide
  have hsame := hclaim otherServer (by decide) (by decide)
  rw [hother] at hsame
  exact absurd hsame (by decide)

theorem request_url_getRoot :
    (requestAuthority (getRoot 0) = some ⟨none, "localhost".toList, some "443".toList⟩ ↔
      EndsAuthority "/".toList) ∧
    ∃ c conn, run (system Nat) anyStep (Client.create true 0)
        [.request (getRoot 0) true [{ calls := [.timer 0] }, {}]] = some c ∧
      c.connections.lookup 0 = some conn ∧
      ∃ args, .submitted 0 args ∈ c.trace ∧ conn.url = (requestConn args).url := by
  refine ⟨request_url.1 (getRoot 0) (by decide) (by decide), ?_⟩
  have hsome : ((run (system Nat) anyStep (Client.create true 0)
      [.request (getRoot 0) true [{ calls := [.timer 0] }, {}]]).bind
        fun c => (c.connections.lookup 0)).isSome = true := by decide
  obtain ⟨conn, hconn⟩ := Option.isSome_iff_exists.mp hsome
  obtain ⟨c, hrun, hlookup⟩ := Option.bind_eq_some_iff.mp hconn
  exact ⟨c, conn, hrun, hlookup,
    request_url.2 c ⟨_, ⟨true, 0, rfl⟩, Path.of_run _ hrun⟩ 0 conn hlookup⟩

end CppComponents.HttpsMultiplexClient
