import CppComponents.ErrorCode
import CppComponents.Transition

/-!
# The HTTPS client

`HttpsClientAsync` runs one request at a time: it resolves the host, connects,
does the TLS handshake, writes the request and reads the response, each with an
asynchronous operation whose completion handler starts the next one. The public
methods post to the executor, so `do_request()`, `do_cancel()` and the
completion handlers run one after the other, in any order.

The model has the client's fields, plus what surrounds the client:

- `ops`: the operations that were started and whose completion handler has not
  run. A cancelled operation stays there until it completes. An operation
  carries what its handler captures and what it refers to: the stream object,
  and how often each of the client's members had been assigned when it was
  started;
- `trace`, `calls` and `current`: the record of a run, for theorems only. A call
  of `do_request()` is numbered by the calls before it, and `current` is the
  number of the running one.

A response handler can act on the client only through methods that post, which
is a later step, and through `is_busy()`, whose answer the trace records. What
cancelling and closing do to Asio's objects shows in what the operations
complete with, and they may complete with anything. `request_generation` is 64
bits wide and only incremented; it is a natural number here.
-/

namespace CppComponents.HttpsClientAsync

open CppComponents.Transition

inductive RequestState where
  | idle
  | inProgress
  | cancelling
  deriving DecidableEq, Repr

inductive HttpMethod where
  | get
  | head
  | post
  | put
  | del
  | patch
  /-- a value outside the enumeration -/
  | other (value : Nat)
  deriving DecidableEq, Repr

structure HttpHeader where
  name : String
  value : String
  deriving DecidableEq, Repr

structure HttpResponse where
  statusCode : Nat := 0
  body : String := ""
  headers : List HttpHeader := []
  deriving DecidableEq, Repr

/-! ## The request message -/

/-- The verbs of Beast the client uses; `unknown` is the default. -/
inductive Verb where
  | unknown
  | get
  | head
  | post
  | put
  | delete
  | patch
  deriving DecidableEq, Repr

def toBeastVerb : HttpMethod → Verb
  | .get => .get
  | .head => .head
  | .post => .post
  | .put => .put
  | .del => .delete
  | .patch => .patch
  | .other _ => .get

/-- A Beast `request<string_body>`; `{}` is the default-constructed one. -/
structure HttpRequest where
  version : Nat := 11
  method : Verb := .unknown
  target : String := ""
  fields : List HttpHeader := []
  body : String := ""
  deriving DecidableEq, Repr

/-- Are two field names equal, in any case? -/
def iequals (name name' : String) : Bool :=
  name.toList.map Char.toLower == name'.toList.map Char.toLower

/-- `fields::set`: removes the fields of that name, in any case, and then
inserts the new one. -/
def HttpRequest.set (request : HttpRequest) (name value : String) : HttpRequest :=
  { request with
    fields := request.fields.filter (fun field => !iequals field.name name) ++ [⟨name, value⟩] }

/-- The arguments of `request()`. The timeout is in milliseconds. -/
structure RequestArgs (H : Type) where
  method : HttpMethod
  host : String
  port : String
  target : String
  body : String
  headers : List HttpHeader
  timeout : Int
  handler : Option H
  deriving DecidableEq

variable {H : Type}

/-- The message `do_request()` builds; `prepare_payload()` is Beast's. -/
def buildRequest (preparePayload : HttpRequest → HttpRequest) (args : RequestArgs H) :
    HttpRequest :=
  let request : HttpRequest :=
    { version := 11, method := toBeastVerb args.method, target := args.target }
  let request := (request.set "Host" args.host).set "User-Agent" "https-client"
  let request := args.headers.foldl (fun request h => request.set h.name h.value) request
  preparePayload { request with body := args.body }

/-- A Beast `response<string_body>`. -/
structure ResponseMessage where
  resultInt : Nat := 200
  body : String := ""
  fields : List HttpHeader := []
  deriving DecidableEq, Repr

/-- The response `handle_read()` makes of `http_response`. -/
def ResponseMessage.toHttpResponse (message : ResponseMessage) : HttpResponse where
  statusCode := message.resultInt
  body := message.body
  headers := message.fields.map fun field => ⟨field.name, field.value⟩

/-! ## Operations -/

/-- What a resolve found. -/
abbrev Endpoints := List Nat

/-- The operations of a request, in the order they are chained. -/
inductive Operation where
  | resolve (host port : String)
  | connect (results : Endpoints)
  /-- with the name the server is verified against -/
  | sslHandshake (serverName : String)
  | write (request : HttpRequest)
  | read
  deriving DecidableEq, Repr

/-- What an operation completes with: its error code; what a resolve found; the
results of the two set-up calls of `handle_connect()`; the message `async_read`
left in `http_response`. -/
structure Completion where
  ec : Option AsioError := none
  results : Endpoints := []
  serverName : Option AsioError := none
  verifyCallback : Option AsioError := none
  response : ResponseMessage := {}
  deriving DecidableEq, Repr

/-- The members of the client that an operation on the stream refers to. -/
inductive Member where
  | httpRequest
  | httpResponse
  | readBuffer
  deriving DecidableEq, Repr

/-- How often each member has been assigned. -/
structure Assigned where
  httpRequest : Nat := 0
  httpResponse : Nat := 0
  readBuffer : Nat := 0
  deriving DecidableEq, Repr

def Assigned.times (assigned : Assigned) : Member → Nat
  | .httpRequest => assigned.httpRequest
  | .httpResponse => assigned.httpResponse
  | .readBuffer => assigned.readBuffer

/-- An outstanding operation. `stream` is the stream object that existed when it
was started. -/
structure Op where
  generation : Nat
  operation : Operation
  stream : Option Nat
  assigned : Assigned
  deriving DecidableEq, Repr

/-- What is recorded of a run. -/
inductive Obs (H : Type) where
  /-- `do_request()` runs, in this state -/
  | submitted (n : Nat) (args : RequestArgs H) (state : RequestState)
  /-- an operation of the running request completes -/
  | completed (n : Nat) (completion : Completion)
  /-- `do_cancel()` ends the request -/
  | canceled (n : Nat)
  /-- the response handler is called; `busy` is what `is_busy()` tells it -/
  | answered (n : Nat) (handler : H) (ec : Option ErrorCode) (response : HttpResponse)
      (busy : Bool)
  deriving DecidableEq

/-- The call of `do_request()` an observation is about. -/
def Obs.call : Obs H → Nat
  | .submitted n _ _ | .completed n _ | .canceled n | .answered n _ _ _ _ => n

/-! ## The client -/

/-- An `SslStream`, identified by how many were created before it, and the
timeout its operations run under (`none` is never). -/
structure SslStream where
  id : Nat
  expiresAfter : Option Int
  deriving DecidableEq, Repr

structure Client (H : Type) where
  stream : Option SslStream
  httpRequest : HttpRequest
  responseHandler : Option H
  host : String
  timeout : Int
  state : RequestState
  requestGeneration : Nat
  /-- how many streams have been created -/
  streams : Nat
  assigned : Assigned
  ops : List Op
  calls : Nat
  current : Nat
  trace : List (Obs H)

namespace Client

/-- A constructed client. -/
def create : Client H where
  stream := none
  httpRequest := {}
  responseHandler := none
  host := ""
  timeout := 0
  state := .idle
  requestGeneration := 0
  streams := 0
  assigned := {}
  ops := []
  calls := 0
  current := 0
  trace := []

def isBusy (c : Client H) : Bool := c.state != .idle

def setState (c : Client H) (state : RequestState) : Client H := { c with state := state }

def log (c : Client H) (o : Obs H) : Client H := { c with trace := c.trace ++ [o] }

/-- `if (handler) handler(ec, response);` -/
def answer (c : Client H) (n : Nat) (handler : Option H) (ec : Option ErrorCode)
    (response : HttpResponse) : Client H :=
  match handler with
  | none => c
  | some h => c.log (.answered n h ec response c.isBusy)

/-- An asynchronous operation is started; `generation` is captured. -/
def start (c : Client H) (generation : Nat) (operation : Operation) : Client H :=
  { c with ops := c.ops ++ [⟨generation, operation, c.stream.map (·.id), c.assigned⟩] }

def isCurrentRequest (c : Client H) (generation : Nat) : Bool :=
  c.state = .inProgress && generation = c.requestGeneration

def destroyStream (c : Client H) : Client H := { c with stream := none }

def createStream (c : Client H) : Client H :=
  let c := c.destroyStream
  { c with
    -- read_buffer.consume(read_buffer.size())
    assigned := { c.assigned with readBuffer := c.assigned.readBuffer + 1 }
    stream := some ⟨c.streams, none⟩
    streams := c.streams + 1 }

def applyTimeout (c : Client H) : Client H :=
  match c.stream with
  | none => c
  | some stream =>
    if c.timeout ≤ 0 then c
    else { c with stream := some { stream with expiresAfter := some c.timeout } }

def completeRequest (c : Client H) (ec : Option ErrorCode) (response : HttpResponse) :
    Client H :=
  let handler := c.responseHandler
  let c := { c with
    responseHandler := none
    host := ""
    timeout := 0
    httpRequest := {}
    assigned := { c.assigned with
      httpRequest := c.assigned.httpRequest + 1
      httpResponse := c.assigned.httpResponse + 1 } }
  -- the client is idle before its handler runs, which may make the next request
  let c := c.setState .idle
  c.answer c.current handler ec response

def failRequest (c : Client H) (ec : AsioError) : Client H :=
  c.destroyStream.completeRequest (some (.asio ec)) {}

/-! ## Requests -/

def doRequest (preparePayload : HttpRequest → HttpRequest) (c : Client H)
    (args : RequestArgs H) : Client H :=
  let n := c.calls
  let c : Client H := { c.log (.submitted n args c.state) with calls := n + 1 }
  if c.state ≠ .idle then
    -- the running request is left alone
    c.answer n args.handler (some (.errc .operationInProgress)) {}
  else
    let c := c.setState .inProgress
    let generation := c.requestGeneration + 1
    let c := { c with
      requestGeneration := generation
      host := args.host
      timeout := args.timeout
      responseHandler := args.handler
      httpRequest := buildRequest preparePayload args
      assigned := { c.assigned with
        httpRequest := c.assigned.httpRequest + 1
        httpResponse := c.assigned.httpResponse + 1 }
      current := n }
    let c := c.createStream
    c.start generation (.resolve c.host args.port)

def doCancel (c : Client H) : Client H :=
  if c.state = .idle ∨ c.state = .cancelling then c
  else
    let c := c.setState .cancelling
    -- operations that are outstanding are of an old generation from here on
    let c := { c with requestGeneration := c.requestGeneration + 1 }
    let c := c.log (.canceled c.current)
    c.destroyStream.completeRequest (some (.errc .operationCanceled)) {}

/-! ## Completion handlers -/

/-- `if (!is_current_request(generation) || !stream) return;` in front of `k`. -/
def ifCurrent (c : Client H) (generation : Nat) (completion : Completion)
    (k : Client H → Client H) : Client H :=
  match c.stream with
  | none => c
  | some _ =>
    -- a completion of an earlier request carries an old generation
    if c.isCurrentRequest generation then k (c.log (.completed c.current completion)) else c

def handleResolve (c : Client H) (generation : Nat) (completion : Completion) : Client H :=
  c.ifCurrent generation completion fun c =>
    match completion.ec with
    | some ec => c.failRequest ec
    | none => c.applyTimeout.start generation (.connect completion.results)

def handleConnect (c : Client H) (generation : Nat) (completion : Completion) : Client H :=
  c.ifCurrent generation completion fun c =>
    match completion.ec with
    | some ec => c.failRequest ec
    | none =>
      let c := c.applyTimeout
      match completion.serverName with
      | some ec => c.failRequest ec
      | none =>
        match completion.verifyCallback with
        | some ec => c.failRequest ec
        | none => c.start generation (.sslHandshake c.host)

def handleSslHandshake (c : Client H) (generation : Nat) (completion : Completion) :
    Client H :=
  c.ifCurrent generation completion fun c =>
    match completion.ec with
    | some ec => c.failRequest ec
    | none =>
      let c := c.applyTimeout
      c.start generation (.write c.httpRequest)

def handleWrite (c : Client H) (generation : Nat) (completion : Completion) : Client H :=
  c.ifCurrent generation completion fun c =>
    match completion.ec with
    | some ec => c.failRequest ec
    | none => c.applyTimeout.start generation .read

def handleRead (c : Client H) (generation : Nat) (completion : Completion) : Client H :=
  c.ifCurrent generation completion fun c =>
    match completion.ec with
    | some ec => c.failRequest ec
    | none => c.destroyStream.completeRequest none completion.response.toHttpResponse

/-- The completion handler of an operation. -/
def handle (c : Client H) (op : Op) (completion : Completion) : Client H :=
  match op.operation with
  | .resolve _ _ => c.handleResolve op.generation completion
  | .connect _ => c.handleConnect op.generation completion
  | .sslHandshake _ => c.handleSslHandshake op.generation completion
  | .write _ => c.handleWrite op.generation completion
  | .read => c.handleRead op.generation completion

end Client

/-! ## The system -/

/-- What the executor runs: a posted `request()` or `cancel()`, or the completion
handler of an outstanding operation. -/
inductive Event (H : Type) where
  | request (args : RequestArgs H)
  | cancel
  | complete (op : Op) (completion : Completion)

def step (preparePayload : HttpRequest → HttpRequest) (c : Client H) :
    Event H → Option (Client H)
  | .request args => some (c.doRequest preparePayload args)
  | .cancel => some c.doCancel
  | .complete op completion =>
    -- an operation completes once
    if op ∈ c.ops then some ({ c with ops := c.ops.erase op }.handle op completion) else none

/-- A client and its executor. -/
def system (H : Type) (preparePayload : HttpRequest → HttpRequest) :
    System (Client H) (Event H) where
  init c := c = Client.create
  step := step preparePayload

end CppComponents.HttpsClientAsync
