import CppComponents.HttpsMultiplexClient.Requests
import CppComponents.Tokens

/-!
# Header lines

Curl hands `header_callback` the lines of a response one at a time, and the
callback makes an entry of every line that has a colon. `do_request()` goes the
other way and renders the headers of a request.

`FieldLine` is a well-formed header field with the blanks that may surround its
value. The parser reads it back exactly, and what the parser makes of any other
line it would make of its own rendering too.

The client follows redirects, and then curl hands over the lines of every
response of the chain. `ReceivedResponse` is one of them. The callback has no
notion of a response: the entries it has made are kept when the next response
begins, and a status line with a colon in it is a header to it.
-/

namespace CppComponents.HttpsMultiplexClient

open CppComponents.Transition CppComponents.Tokens

variable {H : Type}

/-! ## The parser and the renderer -/

/-- What `trim_header_token` removes at the start. -/
def isLeadingBlank (a : Char) : Bool := a = ' ' || a = '\t'

/-- What `trim_header_token` removes at the end. -/
def isTrailingBlank (a : Char) : Bool := a = '\r' || a = '\n' || a = ' ' || a = '\t'

theorem isTrailingBlank_of_leading (a : Char) (h : isLeadingBlank a = true) :
    isTrailingBlank a = true := by
  simp only [isLeadingBlank, isTrailingBlank, Bool.or_eq_true, decide_eq_true_eq] at h ⊢
  tauto

/-- A token that `trim_header_token` leaves as it is. -/
abbrev IsToken (token : Text) : Prop := Trimmed isLeadingBlank isTrailingBlank token

theorem parseHeader_eq (line : Text) :
    parseHeader line = (splitFirst ':' line).bind fun parts =>
      if trimHeaderToken parts.1 = [] then none
      else some ⟨trimHeaderToken parts.1, trimHeaderToken parts.2⟩ := by
  by_cases hcolon : ':' ∈ line <;> simp [parseHeader, splitFirst, hcolon]

/-- The callback itself: what it returns, and what it makes of its context. -/
def ConnContext.headerCallback (conn : ConnContext H) (line : Text) : Nat × ConnContext H :=
  let total := line.length
  if ':' ∉ line then (total, conn)
  else
    let header : HttpHeader :=
      ⟨trimHeaderToken (line.takeWhile (· ≠ ':')),
        trimHeaderToken (line.dropWhile (· ≠ ':')).tail⟩
    if header.name ≠ [] then
      (total, { conn with responseHeaders := conn.responseHeaders ++ [header] })
    else (total, conn)

theorem ConnContext.headerCallback_eq (conn : ConnContext H) (line : Text) :
    conn.headerCallback line = (line.length,
      { conn with responseHeaders := conn.responseHeaders ++ (parseHeader line).toList }) := by
  unfold ConnContext.headerCallback parseHeader
  by_cases hcolon : ':' ∉ line
  · simp [hcolon]
  · generalize trimHeaderToken (line.takeWhile (· ≠ ':')) = name
    by_cases hname : name = [] <;> simp [hcolon, hname]

/-- Curl's call of `header_callback` is a call with the transfer's context. -/
theorem Client.headerCallback_eq (c : Client H) {n : Nat} {conn : ConnContext H}
    (hconn : c.connections.lookup n = some conn) (line : Text) :
    c.headerCallback n line =
      { c with connections := c.connections.insert n (conn.headerCallback line).2 } := by
  simp [Client.headerCallback, hconn, ConnContext.headerCallback_eq]

/-- A header as `do_request()` renders it. -/
def HttpHeader.render (header : HttpHeader) : Text := header.name ++ ": ".toList ++ header.value

/-- The context `do_request()` makes for a request. -/
def requestConn (args : RequestArgs H) : ConnContext H where
  easy := none
  curlHeaders := args.headers.map HttpHeader.render
  url := "https://".toList ++ args.host ++ ":".toList ++ args.port ++ args.target
  body := args.body
  timeout := args.timeout
  responseBody := []
  responseHeaders := []
  handler := args.handler

theorem Client.doRequest_eq (c : Client H) (args : RequestArgs H) (easyInit : Bool) :
    c.doRequest args easyInit =
      let c' : Client H := { c.log (.submitted c.calls args) with calls := c.calls + 1 }
      if (toCurlMethod args.method).isNone then
        c'.answer c.calls args.handler (some (.errc .invalidArgument)) {}
      else c'.startRequest c.calls (requestConn args) args.method easyInit := rfl

/-! ## Header fields -/

/-- A header field on a line of its own: a name, a colon, a value that blanks may
surround, and the end of the line. -/
structure FieldLine where
  name : Text
  before : Text
  value : Text
  after : Text
  name_ne_nil : name ≠ []
  colon : ':' ∉ name
  isName : IsToken name
  isValue : IsToken value
  before_blank : ∀ a ∈ before, isLeadingBlank a = true
  after_blank : ∀ a ∈ after, isLeadingBlank a = true

namespace FieldLine

def line (field : FieldLine) : Text :=
  field.name ++ ':' :: (field.before ++ field.value ++ field.after) ++ "\r\n".toList

def header (field : FieldLine) : HttpHeader := ⟨field.name, field.value⟩

end FieldLine

/-- A name, a colon, and a value with something to trim around it. -/
theorem parseHeader_field {name before value after : Text} (hne : name ≠ []) (hcolon : ':' ∉ name)
    (hname : IsToken name) (hvalue : IsToken value)
    (hbefore : ∀ a ∈ before, isLeadingBlank a = true)
    (hafter : ∀ a ∈ after, isTrailingBlank a = true) :
    parseHeader (name ++ ':' :: (before ++ value ++ after)) = some ⟨name, value⟩ := by
  have htrimName : trimHeaderToken name = name := trim_of_trimmed hname
  have htrimValue : trimHeaderToken (before ++ value ++ after) = value :=
    trim_surround isTrailingBlank_of_leading hbefore hvalue hafter
  rw [parseHeader_eq, splitFirst_append hcolon, Option.bind_some, htrimName, htrimValue, if_neg hne]

theorem FieldLine.parse (field : FieldLine) : parseHeader field.line = some field.header := by
  have hafter : ∀ a ∈ field.after ++ "\r\n".toList, isTrailingBlank a = true := by
    intro a ha
    rcases List.mem_append.mp ha with ha | ha
    · exact isTrailingBlank_of_leading a (field.after_blank a ha)
    · simp only [String.reduceToList, List.mem_cons, List.not_mem_nil, or_false] at ha
      rcases ha with rfl | rfl <;> rfl
  have hline : field.line =
      field.name ++ ':' :: (field.before ++ field.value ++ (field.after ++ "\r\n".toList)) := by
    simp [FieldLine.line]
  rw [hline]
  exact parseHeader_field field.name_ne_nil field.colon field.isName field.isValue
    field.before_blank hafter

/-- What the parser finds is a name and a value in the form it gives them. -/
theorem parseHeader_token {line : Text} {header : HttpHeader} (h : parseHeader line = some header) :
    header.name ≠ [] ∧ ':' ∉ header.name ∧ IsToken header.name ∧ IsToken header.value := by
  rw [parseHeader_eq, Option.bind_eq_some_iff] at h
  obtain ⟨⟨name, value⟩, hsplit, h⟩ := h
  simp only [Option.ite_none_left_eq_some, Option.some.injEq] at h
  obtain ⟨hne, rfl⟩ := h
  refine ⟨hne, fun hmem => ?_, trimmed_trim name, trimmed_trim value⟩
  exact not_mem_of_splitFirst hsplit (trim_sublist name |>.subset hmem)

/-- Parsing is a normal form. -/
theorem parseHeader_render {line : Text} {header : HttpHeader}
    (h : parseHeader line = some header) : parseHeader header.render = some header := by
  obtain ⟨hne, hcolon, hname, hvalue⟩ := parseHeader_token h
  have hrender : header.render = header.name ++ ':' :: ([' '] ++ header.value ++ []) := by
    simp [HttpHeader.render]
  rw [hrender]
  exact parseHeader_field hne hcolon hname hvalue
    (List.forall_mem_singleton.mpr rfl) (fun _ ha => by cases ha)

/-- **Header lines are parsed exactly.**

- Of a well-formed field, with any blanks around its value, `header_callback` makes
  one entry, the field's name and value;
- of any line whatever it makes at most one entry, and of that entry, rendered as
  `do_request()` renders headers, it makes the same entry again;
- it always reports the whole line as consumed. -/
theorem header_lines_parsed (conn : ConnContext H) :
    (∀ field : FieldLine, conn.headerCallback field.line = (field.line.length,
      { conn with responseHeaders := conn.responseHeaders ++ [field.header] })) ∧
    ∀ line : Text, ∃ entries : List HttpHeader, entries.length ≤ 1 ∧
      conn.headerCallback line = (line.length,
        { conn with responseHeaders := conn.responseHeaders ++ entries }) ∧
      ∀ header ∈ entries, ∀ conn' : ConnContext H,
        conn'.headerCallback header.render = (header.render.length,
          { conn' with responseHeaders := conn'.responseHeaders ++ [header] }) := by
  constructor
  · intro field
    rw [ConnContext.headerCallback_eq, field.parse]
    rfl
  · intro line
    refine ⟨(parseHeader line).toList, ?_, conn.headerCallback_eq line, ?_⟩
    · cases parseHeader line <;> simp
    · intro header hheader conn'
      have hparse : parseHeader line = some header := Option.mem_toList.mp hheader
      rw [ConnContext.headerCallback_eq, parseHeader_render hparse]
      rfl

/-! ## Chains of responses -/

/-- The head of a response: a status line and the header fields after it. -/
structure ReceivedResponse where
  status : Text
  fields : List FieldLine
  isStatus : "HTTP/".toList <+: status

namespace ReceivedResponse

/-- The lines curl hands over, the blank one last. -/
def lines (response : ReceivedResponse) : List Text :=
  (response.status ++ "\r\n".toList) :: response.fields.map FieldLine.line ++ ["\r\n".toList]

def headers (response : ReceivedResponse) : List HttpHeader :=
  response.fields.map FieldLine.header

/-- The entries `header_callback` makes of the lines. -/
def entries (response : ReceivedResponse) : List HttpHeader :=
  response.lines.filterMap parseHeader

/-- A status line becomes a header if and only if it has a colon. -/
theorem parseHeader_status (response : ReceivedResponse) :
    parseHeader (response.status ++ "\r\n".toList) = none ↔ ':' ∉ response.status := by
  obtain ⟨rest, hrest⟩ := response.isStatus
  constructor
  · intro hnone hcolon
    have hmem : ':' ∈ rest := by
      rw [← hrest] at hcolon
      exact (List.mem_append.mp hcolon).resolve_left (by decide)
    obtain ⟨before, after, rfl, hbefore⟩ := List.eq_append_cons_of_mem hmem
    have hline : response.status ++ "\r\n".toList =
        ("HTTP/".toList ++ before) ++ ':' :: (after ++ "\r\n".toList) := by
      simp [← hrest]
    have hfirst : ':' ∉ "HTTP/".toList ++ before := by simp [hbefore]
    -- what is before the colon begins with the protocol's name, so it is not empty
    have hname : trimHeaderToken ("HTTP/".toList ++ before) ≠ [] :=
      trim_ne_nil (a := 'H') (by simp) rfl rfl
    rw [hline, parseHeader_eq, splitFirst_append hfirst, Option.bind_some, if_neg hname] at hnone
    cases hnone
  · intro hcolon
    have hline : ':' ∉ response.status ++ "\r\n".toList := by simp [hcolon]
    rw [parseHeader_eq, splitFirst_eq_none.mpr hline]
    rfl

theorem entries_eq (response : ReceivedResponse) :
    response.entries =
      (parseHeader (response.status ++ "\r\n".toList)).toList ++ response.headers := by
  have hfields : (response.fields.map FieldLine.line).filterMap parseHeader = response.headers := by
    rw [List.filterMap_map]
    exact List.filterMap_eq_map_iff_forall_eq_some.mpr fun field _ => field.parse
  have hblank : ["\r\n".toList].filterMap parseHeader = [] := by decide
  rw [entries, lines, List.cons_append, List.filterMap_cons, List.filterMap_append, hfields, hblank,
    List.append_nil]
  cases parseHeader (response.status ++ "\r\n".toList) <;> rfl

theorem entries_eq_nil {response : ReceivedResponse} :
    response.entries = [] ↔ response.fields = [] ∧ ':' ∉ response.status := by
  rw [entries_eq, List.append_eq_nil_iff, Option.toList_eq_nil_iff, parseHeader_status, headers,
    List.map_eq_nil_iff, and_comm]

end ReceivedResponse

/-- Nothing in the lines of the chain makes an entry, but for the fields of the final
response. -/
def OnlyFinalFields (chain : List ReceivedResponse) (final : ReceivedResponse) : Prop :=
  (∀ response ∈ chain, response.fields = []) ∧
    ∀ response ∈ chain ++ [final], ':' ∉ response.status

/-- The entries made of a chain of responses are the final one's headers only if nothing
came before them. -/
theorem chain_entries_iff (chain : List ReceivedResponse) (final : ReceivedResponse) :
    ((chain ++ [final]).flatMap ReceivedResponse.lines).filterMap parseHeader = final.headers ↔
      OnlyFinalFields chain final := by
  have hentries : ((chain ++ [final]).flatMap ReceivedResponse.lines).filterMap parseHeader =
      (chain.flatMap ReceivedResponse.entries ++
        (parseHeader (final.status ++ "\r\n".toList)).toList) ++ final.headers := by
    rw [List.append_assoc, ← final.entries_eq, List.filterMap_flatMap, List.flatMap_append,
      List.flatMap_singleton]
    rfl
  rw [hentries, List.append_left_eq_self, List.append_eq_nil_iff, List.flatMap_eq_nil_iff,
    Option.toList_eq_nil_iff, ReceivedResponse.parseHeader_status]
  constructor
  · rintro ⟨hchain, hfinal⟩
    refine ⟨fun response h => (ReceivedResponse.entries_eq_nil.mp (hchain response h)).1, ?_⟩
    intro response h
    rcases List.mem_append.mp h with h | h
    · exact (ReceivedResponse.entries_eq_nil.mp (hchain response h)).2
    · obtain rfl := List.mem_singleton.mp h
      exact hfinal
  · rintro ⟨hfields, hstatus⟩
    refine ⟨fun response h => ?_, hstatus final (by simp)⟩
    exact ReceivedResponse.entries_eq_nil.mpr ⟨hfields response h, hstatus response (by simp [h])⟩

/-! ## What a handler is given -/

def Data.line : Data → Option Text
  | .body _ => none
  | .header line => some line

def Obs.line (n : Nat) : Obs H → Option Text
  | .data m d => if m = n then d.line else none
  | _ => none

/-- The header lines curl has handed over for request `n`. -/
def headerLines (n : Nat) (trace : List (Obs H)) : List Text := trace.filterMap (Obs.line n)

theorem headersOf_eq (data : List Data) :
    headersOf data = (data.filterMap Data.line).filterMap parseHeader := by
  rw [List.filterMap_filterMap, headersOf]
  refine congrArg (fun f => List.filterMap f data) (funext fun d => ?_)
  cases d <;> rfl

theorem headerLines_about (n : Nat) (r : Requests H) :
    headerLines n (r.about n) = headerLines n r.trace := by
  rw [headerLines, Requests.about, List.filterMap_filter]
  refine congrArg (fun f => List.filterMap f r.trace) (funext fun o => ?_)
  cases o with
  | data m d => by_cases hm : m = n <;> simp [Obs.isAbout, Obs.line, hm]
  | _ => simp [Obs.isAbout, Obs.line]

theorem headerLines_record (n : Nat) (args : RequestArgs H) (data : List Data)
    (done : Option (CURLcode × Nat)) (handler : Option H) (ec : Option ErrorCode)
    (response : HttpResponse) (pending : Nat) :
    headerLines n (record n args data done ++ .ended n ::
      answers n handler ec response pending) = data.filterMap Data.line := by
  have hanswers : (answers n handler ec response pending).filterMap (Obs.line n) = [] :=
    List.filterMap_eq_nil_iff.mpr fun o ho => by
      obtain ⟨a, -, rfl⟩ := List.mem_map.mp ho
      rfl
  have hdone :
      (done.toList.map fun d => (Obs.done n d.1 d.2 : Obs H)).filterMap (Obs.line n) = [] :=
    List.filterMap_eq_nil_iff.mpr fun o ho => by
      obtain ⟨d, -, rfl⟩ := List.mem_map.mp ho
      rfl
  have hdata : (data.map (Obs.data n : Data → Obs H)).filterMap (Obs.line n) =
      data.filterMap Data.line := by
    rw [List.filterMap_map]
    refine congrArg (fun f => List.filterMap f data) (funext fun d => ?_)
    simp [Obs.line]
  simp only [headerLines, record, List.filterMap_append, List.filterMap_cons, hanswers, hdone,
    hdata, Obs.line, List.append_nil]

/-- A handler that is called without an error is given an entry for each header line of
its transfer that makes one. -/
theorem headers_of_answered {c : Client H} (hr : Reachable (system H) anyStep c) {n : Nat}
    {handler : H} {response : HttpResponse} {pending : Nat}
    (h : .answered n handler none response pending ∈ c.trace) :
    response.headers = (headerLines n c.trace).filterMap parseHeader := by
  have hserving := serving_of_reachable hr
  have habout : .answered n handler none response pending ∈ c.requests.about n :=
    List.mem_filter.mpr ⟨h, by simp [Obs.isAbout]⟩
  rw [show c.trace = c.requests.trace from rfl, ← headerLines_about]
  -- a request that is still running has not been answered
  by_cases hhandle : n ∈ c.requests.handles
  · obtain ⟨args, data, done, hrunning⟩ := hserving.recorded.running n hhandle
    rw [hrunning.record] at habout
    simp [record] at habout
  · have hlt : n < c.requests.calls := by
      by_contra hge
      rw [hserving.recorded.fresh n (Nat.le_of_not_lt hge)] at habout
      cases habout
    obtain ⟨args, hfate⟩ := hserving.recorded.ended n hlt hhandle
    generalize c.requests.about n = l at habout hfate
    -- of the fates only a finished transfer answers without an error
    cases hfate with
    | rejected => simp [answers] at habout
    | canceled => simp [record, answers] at habout
    | finished data result httpCode pending' =>
      have hanswer : (fromCurlCode result).map ErrorCode.errc = none ∧
          responseOf data result httpCode = response := by
        obtain ⟨-, hcode, hresponse, -⟩ : args.handler = some handler ∧
            fromCurlCode result = none ∧ responseOf data result httpCode = response ∧
            pending' = pending := by
          simpa [record, answers] using habout
        exact ⟨by rw [hcode]; rfl, hresponse⟩
      obtain ⟨hcode, rfl⟩ := hanswer
      obtain rfl : result = .ok := by
        cases result <;> simp [fromCurlCode] at hcode ⊢
      rw [headerLines_record, ← headersOf_eq]
      rfl

/-- **When the headers are those of the response.** In every run, when a handler is
called without an error and the header lines of its transfer were those of a chain
of responses, it is given the header fields of the final one, and nothing else, if
and only if no earlier response of the chain has a header field and no status line
of the chain has a colon. -/
theorem returned_headers_iff {c : Client H} (hr : Reachable (system H) anyStep c) {n : Nat}
    {handler : H} {response : HttpResponse} {pending : Nat}
    (h : .answered n handler none response pending ∈ c.trace) {chain : List ReceivedResponse}
    {final : ReceivedResponse}
    (hlines : headerLines n c.trace = (chain ++ [final]).flatMap ReceivedResponse.lines) :
    response.headers = final.headers ↔ OnlyFinalFields chain final := by
  rw [headers_of_answered hr h, hlines]
  exact chain_entries_iff chain final

/-- `Location: /b` -/
def location : FieldLine where
  name := "Location".toList
  before := [' ']
  value := "/b".toList
  after := []
  name_ne_nil := by decide
  colon := by decide
  isName := ⟨by simp [isLeadingBlank], by simp [isTrailingBlank]⟩
  isValue := ⟨by simp [isLeadingBlank], by simp [isTrailingBlank]⟩
  before_blank := by simp [isLeadingBlank]
  after_blank := by simp

def found : ReceivedResponse := ⟨"HTTP/1.1 302 Found".toList, [location], by decide⟩

def okResponse : ReceivedResponse := ⟨"HTTP/1.1 200 OK".toList, [], by decide⟩

/-- A `get()` that is redirected once. -/
def redirected : List (Event Nat) :=
  [.request (getRoot 0) true [{},
    { calls := ((found.lines ++ okResponse.lines).map (CurlCall.header 0)) ++ [.done 0 .ok 200] },
    {}]]

theorem redirected_run :
    ∃ c, run (system Nat) anyStep (Client.create true 0) redirected = some c ∧
      .answered 0 0 none ⟨200, [], [location.header]⟩ 0 ∈ c.trace ∧
      headerLines 0 c.trace = ([found] ++ [okResponse]).flatMap ReceivedResponse.lines := by
  have hsome : ((run (system Nat) anyStep (Client.create true 0) redirected).map fun c =>
      (decide (.answered 0 0 none ⟨200, [], [location.header]⟩ 0 ∈ c.trace),
        headerLines 0 c.trace)) =
      some (true, ([found] ++ [okResponse]).flatMap ReceivedResponse.lines) := by decide
  obtain ⟨c, hrun, hc⟩ := Option.map_eq_some_iff.mp hsome
  simp only [Prod.mk.injEq, decide_eq_true_eq] at hc
  exact ⟨c, hrun, hc.1, hc.2⟩

/-- The redirection's `Location` is among the headers of the response it led to. -/
theorem headers_of_redirection :
    ¬ ∀ c : Client Nat, Reachable (system Nat) anyStep c → ∀ n handler response pending,
      .answered n handler none response pending ∈ c.trace → ∀ chain final,
      headerLines n c.trace = (chain ++ [final]).flatMap ReceivedResponse.lines →
      response.headers = final.headers := by
  intro hclaim
  obtain ⟨c, hrun, hanswered, hlines⟩ := redirected_run
  have hheaders := hclaim c ⟨_, ⟨true, 0, rfl⟩, Path.of_run redirected hrun⟩ 0 0 _ 0 hanswered
    [found] okResponse hlines
  exact absurd hheaders (by decide)

theorem returned_headers_iff_redirected :
    ∃ c response, Reachable (system Nat) anyStep c ∧
      .answered 0 0 none response 0 ∈ c.trace ∧
      (response.headers = okResponse.headers ↔ OnlyFinalFields [found] okResponse) := by
  obtain ⟨c, hrun, hanswered, hlines⟩ := redirected_run
  have hr : Reachable (system Nat) anyStep c :=
    ⟨_, ⟨true, 0, rfl⟩, Path.of_run redirected hrun⟩
  exact ⟨c, _, hr, hanswered, returned_headers_iff hr hanswered hlines⟩

end CppComponents.HttpsMultiplexClient
