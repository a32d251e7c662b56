import Mathlib.Algebra.Order.Ring.Nat
import Mathlib.Data.List.AList
import CppComponents.ErrorCode
import CppComponents.SteadyTimer
import CppComponents.TcpSocket
import CppComponents.Transition

/-!
# The multiplexing HTTPS client

`HttpsMultiplexClient` hands its requests to libcurl's multi interface and gives
curl what it needs of the executor: sockets, waits on them, and one timer. Any
number of requests may run at once. A `curl_multi_*` call may call back into the
client: to open and close sockets, to say which directions of a socket it wants
to be told about, to set the timer, to deliver parts of a response, and to queue
the message that a transfer is done.

The model has the client's fields, plus what surrounds the client:

- `sockets`: the socket objects, numbered by how many were opened before; a map
  entry holds a number. The waits of a socket or of the timer that were started
  and whose handler has not run are in the socket or the timer;
- `curl`: curl's side. A message is queued once for each transfer, and a removed
  handle's message is discarded. `owned` are the sockets whose descriptors curl
  obtained and has not released, `interest` is what it last asked for on a
  descriptor, `timeout` the last timeout it asked for, until it is delivered;
- `script`: what the `curl_multi_*` calls of the running callback do, in order.
  Any list of calls may stand there. A call that curl cannot make, such as one
  for a transfer that is done, is skipped;
- `trace` and `closed`: what has happened so far to the requests and to the
  sockets, for theorems about whole runs.

A request is numbered by the calls of `do_request()` before it. The number
stands for its `ConnContext`, and for the easy handle that points to it. A
response handler acts on the client only by methods that post, and by
`pending_count()`, whose answer the trace records.
-/

namespace CppComponents.HttpsMultiplexClient

open CppComponents.Transition

/-- The characters of a `std::string`. -/
abbrev Text := List Char

/-- A `std::unordered_map` whose keys are descriptors or addresses. -/
abbrev Map (β : Type) := AList fun _ : Nat => β

inductive HttpMethod where
  | get
  | head
  | post
  | put
  | del
  | patch
  /-- a value outside the enumeration -/
  | other (value : Nat)
  deriving DecidableEq, Repr

structure HttpHeader where
  name : Text
  value : Text
  deriving DecidableEq, Repr

structure HttpResponse where
  statusCode : Nat := 0
  body : Text := []
  headers : List HttpHeader := []
  deriving DecidableEq, Repr

/-- The arguments of `request()`. The timeout is in milliseconds. -/
structure RequestArgs (H : Type) where
  method : HttpMethod
  host : Text
  port : Text
  target : Text
  body : Text
  headers : List HttpHeader
  timeout : Int
  handler : Option H
  deriving DecidableEq

/-! ## curl's types -/

inductive CURLcode where
  | ok
  | operationTimedout
  | couldntResolveHost
  | couldntConnect
  | abortedByCallback
  | other (value : Nat)
  deriving DecidableEq, Repr

/-- `none` is the null pointer. -/
def toCurlMethod : HttpMethod → Option String
  | .get => some "GET"
  | .head => some "HEAD"
  | .post => some "POST"
  | .put => some "PUT"
  | .del => some "DELETE"
  | .patch => some "PATCH"
  | .other _ => none

def fromCurlCode : CURLcode → Option Errc
  | .ok => none
  | .operationTimedout => some .timedOut
  | .couldntResolveHost => some .hostUnreachable
  | .couldntConnect => some .connectionRefused
  | .abortedByCallback => some .operationCanceled
  | .other _ => some .ioError

/-- What curl wants to be told about a socket. -/
inductive CurlPoll where
  | pollNone
  | pollIn
  | pollOut
  | pollInOut
  | pollRemove
  deriving DecidableEq, Repr

def CurlPoll.includes : CurlPoll → Direction → Bool
  | .pollIn, .read | .pollInOut, .read | .pollOut, .write | .pollInOut, .write => true
  | _, _ => false

inductive SocketPurpose where
  | ipConnection
  | other
  deriving DecidableEq, Repr

inductive AddressFamily where
  | inet
  | inet6
  | other
  deriving DecidableEq, Repr

/-- The options `apply_method()` and `configure_easy_handle()` set on an easy
handle that depend on the request. -/
structure EasyOptions where
  httpGet : Bool := false
  noBody : Bool := false
  post : Bool := false
  customRequest : Option Text := none
  /-- with their length as `CURLOPT_POSTFIELDSIZE` -/
  postFields : Option Text := none
  url : Text := []
  timeoutMs : Int := 0
  connectTimeoutMs : Int := 300000
  caInfo : Option Text := none
  httpHeader : List Text := []
  deriving DecidableEq, Repr

/-- A call that curl makes from inside a `curl_multi_*` call. -/
inductive CurlCall where
  /-- `socket_callback`; `assignOk` is what a `curl_multi_assign` in it returns -/
  | socket (fd : Nat) (what : CurlPoll) (assignOk : Bool)
  | timer (timeoutMs : Int)
  /-- `open_socket_callback`; `choice` is the system's choice of a descriptor -/
  | openSocket (purpose : SocketPurpose) (family : AddressFamily)
      (openError nonBlockingError : Bool) (choice : Nat)
  /-- `close_socket_callback` for the descriptor of a socket -/
  | closeSocket (id : Nat)
  | write (easy : Nat) (data : Text)
  | header (easy : Nat) (line : Text)
  /-- the transfer is done: its message is queued -/
  | done (easy : Nat) (result : CURLcode) (httpCode : Nat)
  deriving DecidableEq, Repr

/-- What one `curl_multi_*` call does, and whether it returns `CURLM_OK`. -/
structure CurlRun where
  calls : List CurlCall := []
  ok : Bool := true
  deriving DecidableEq, Repr

/-- A `CURLMSG_DONE`. -/
structure Message where
  easy : Nat
  result : CURLcode
  httpCode : Nat
  deriving DecidableEq, Repr

structure Curl where
  /-- the easy handles that were added and not removed -/
  handles : List Nat
  /-- the easy handles whose message has been queued -/
  finished : List Nat
  messages : List Message
  /-- the pointer assigned to a descriptor -/
  assigned : Map Nat
  interest : Nat → CurlPoll
  owned : List Nat
  timeout : Option Nat

/-- The number of running transfers. -/
def Curl.running (curl : Curl) : Nat :=
  (curl.handles.filter fun n => n ∉ curl.finished).length

/-! ## Header lines -/

def trimHeaderToken (value : Text) : Text :=
  let isTrailing : Char → Bool := fun a => a = '\r' || a = '\n' || a = ' ' || a = '\t'
  let value := (value.reverse.dropWhile isTrailing).reverse
  value.dropWhile fun a => a = ' ' || a = '\t'

/-- The entry `header_callback` makes of a line. -/
def parseHeader (line : Text) : Option HttpHeader :=
  if ':' ∉ line then none
  else
    let name := trimHeaderToken (line.takeWhile (· ≠ ':'))
    let value := trimHeaderToken (line.dropWhile (· ≠ ':')).tail
    if name = [] then none else some ⟨name, value⟩

/-! ## Requests and the trace -/

variable {H : Type}

structure ConnContext (H : Type) where
  easy : Option EasyOptions
  curlHeaders : List Text
  url : Text
  body : Text
  timeout : Int
  responseBody : Text
  responseHeaders : List HttpHeader
  handler : Option H

/-- A part of a response. -/
inductive Data where
  | body (data : Text)
  | header (line : Text)
  deriving DecidableEq, Repr

/-- What is recorded of a run. -/
inductive Obs (H : Type) where
  /-- `do_request()` runs -/
  | submitted (n : Nat) (args : RequestArgs H)
  /-- the request's easy handle is in the multi -/
  | accepted (n : Nat)
  | data (n : Nat) (data : Data)
  | done (n : Nat) (result : CURLcode) (httpCode : Nat)
  /-- an accepted request has ended; its handler is about to be called -/
  | ended (n : Nat)
  /-- a handler is called; `pending` is what `pending_count()` tells it -/
  | answered (n : Nat) (handler : H) (ec : Option ErrorCode) (response : HttpResponse)
      (pending : Nat)
  /-- `check_multi_info()` has found no connection for a message -/
  | notFound
  deriving DecidableEq

/-- The client has closed a socket, which curl may have owned still. -/
structure Close where
  id : Nat
  owned : Bool
  deriving DecidableEq, Repr

structure Client (H : Type) where
  timer : SteadyTimer Nat
  multi : Bool
  stillRunning : Nat
  caCertificateFile : Text
  pending : Nat
  socketMap : Map Nat
  socketActions : Map CurlPoll
  connections : Map (ConnContext H)
  actions : Map CurlPoll
  now : Int
  sockets : Nat → TcpSocket
  /-- how many sockets have been opened, actions allocated, timeouts requested -/
  opened : Nat
  allocated : Nat
  timeouts : Nat
  curl : Curl
  script : List CurlRun
  calls : Nat
  trace : List (Obs H)
  closed : List Close

namespace Client

/-- A constructed client; `multi` is whether `curl_multi_init()` succeeded. -/
def create (multi : Bool) (now : Int) : Client H where
  timer := ⟨now, []⟩
  multi := multi
  stillRunning := 0
  caCertificateFile := []
  pending := 0
  socketMap := ∅
  socketActions := ∅
  connections := ∅
  actions := ∅
  now := now
  sockets := fun _ => ⟨0, false, []⟩
  opened := 0
  allocated := 0
  timeouts := 0
  curl := ⟨[], [], [], ∅, fun _ => .pollNone, [], none⟩
  script := []
  calls := 0
  trace := []
  closed := []

def isBusy (c : Client H) : Bool := 0 < c.pending

def log (c : Client H) (o : Obs H) : Client H := { c with trace := c.trace ++ [o] }

/-- `if (handler) handler(ec, response);` -/
def answer (c : Client H) (n : Nat) (handler : Option H) (ec : Option ErrorCode)
    (response : HttpResponse) : Client H :=
  match handler with
  | none => c
  | some h => c.log (.answered n h ec response c.pending)

def updateSocket (c : Client H) (id : Nat) (f : TcpSocket → TcpSocket) : Client H :=
  { c with sockets := Function.update c.sockets id (f (c.sockets id)) }

/-- `close()` of a socket object. -/
def closeSocket (c : Client H) (id : Nat) : Client H :=
  { c.updateSocket id .close with closed := c.closed ++ [⟨id, id ∈ c.curl.owned⟩] }

/-! ## curl's callbacks: sockets and the timer -/

def armSocketWatches (c : Client H) (id : Nat) (action : CurlPoll) : Client H :=
  let c := if action.includes .read then c.updateSocket id (·.asyncWait .read) else c
  if action.includes .write then c.updateSocket id (·.asyncWait .write) else c

def handleSetSocket (c : Client H) (fd : Nat) (action : CurlPoll) (actionp : Nat) : Client H :=
  match c.socketMap.lookup fd with
  | none => c
  | some id =>
    let c := { c with
      actions := c.actions.replace actionp action
      socketActions := c.socketActions.insert fd action }
    (c.updateSocket id .cancel).armSocketWatches id action

def handleAddSocket (c : Client H) (fd : Nat) (what : CurlPoll) (assignOk : Bool) : Client H :=
  -- make_shared<int>(0), which handle_set_socket() overwrites
  let action := c.allocated
  let value := if (c.socketMap.lookup fd).isSome then what else .pollNone
  let c : Client H :=
    { c.handleSetSocket fd what action with allocated := c.allocated + 1 }
  if assignOk then
    { c with
      curl := { c.curl with assigned := c.curl.assigned.insert fd action }
      actions := c.actions.insert action value }
  else c

def handleRemoveSocket (c : Client H) (actionp : Option Nat) : Client H :=
  match actionp with
  | none => c
  | some action => { c with actions := c.actions.erase action }

def handleSocketEvent (c : Client H) (fd : Nat) (what : CurlPoll) (socketp : Option Nat)
    (assignOk : Bool) : Client H :=
  if what = .pollRemove then
    { c with socketActions := c.socketActions.erase fd }.handleRemoveSocket socketp
  else
    match socketp with
    | none => c.handleAddSocket fd what assignOk
    | some actionp => c.handleSetSocket fd what actionp

def handleTimeoutEvent (c : Client H) (timeoutMs : Int) : Client H :=
  let c := { c with timer := c.timer.cancel }
  if timeoutMs < 0 then c
  else { c with timer := (c.timer.expiresAt (c.now + timeoutMs)).asyncWait c.timeouts }

/-- A new socket object with descriptor `fd` goes into `socket_map`. -/
def storeSocket (c : Client H) (fd : Nat) : Client H :=
  let id := c.opened
  let c := { c with
    sockets := Function.update c.sockets id ⟨fd, true, []⟩
    opened := id + 1 }
  match c.socketMap.lookup fd with
  | none => { c with socketMap := c.socketMap.insert fd id }
  -- insert() keeps the entry there is, and the new socket is destroyed
  | some _ => c.closeSocket id

/-- `CURL_SOCKET_BAD` is `none`. `fd` is what `native_handle()` returns if the
socket can be opened. -/
def handleOpenSocket (c : Client H) (purpose : SocketPurpose) (family : AddressFamily)
    (openError nonBlockingError : Bool) (fd : Nat) : Option Nat × Client H :=
  if purpose ≠ .ipConnection then (none, c)
  else if family = .other then (none, c)
  else if openError then (none, c)
  else if nonBlockingError then (none, c)
  else (some fd, c.storeSocket fd)

def handleCloseSocket (c : Client H) (item : Nat) : Client H :=
  let c := { c with socketActions := c.socketActions.erase item }
  match c.socketMap.lookup item with
  | none => c
  | some id => { c.closeSocket id with socketMap := c.socketMap.erase item }

/-! ## curl's callbacks: the response -/

def writeCallback (c : Client H) (n : Nat) (data : Text) : Client H :=
  match c.connections.lookup n with
  | none => c
  | some conn =>
    { c with
      connections := c.connections.insert n
        { conn with responseBody := conn.responseBody ++ data } }

def headerCallback (c : Client H) (n : Nat) (line : Text) : Client H :=
  match c.connections.lookup n with
  | none => c
  | some conn =>
    { c with
      connections := c.connections.insert n
        { conn with responseHeaders := conn.responseHeaders ++ (parseHeader line).toList } }

/-! ## curl -/

/-- The descriptors of the open sockets. -/
def openDescriptors (c : Client H) : List Nat :=
  ((List.range c.opened).filter fun id => (c.sockets id).isOpen).map fun id => (c.sockets id).fd

/-- The system gives a new socket a descriptor that is not in use. -/
def freeDescriptor (c : Client H) (choice : Nat) : Nat :=
  if choice ∈ c.openDescriptors then c.openDescriptors.sum + 1 else choice

/-- Is the transfer running? -/
def isTransferring (c : Client H) (n : Nat) : Bool :=
  n ∈ c.curl.handles && n ∉ c.curl.finished

def curlCall (c : Client H) : CurlCall → Client H
  | .socket fd what assignOk =>
    let socketp := c.curl.assigned.lookup fd
    let interest := if what = .pollRemove then .pollNone else what
    let c := { c with
      curl := { c.curl with interest := Function.update c.curl.interest fd interest } }
    let c := c.handleSocketEvent fd what socketp assignOk
    if what = .pollRemove then
      { c with curl := { c.curl with assigned := c.curl.assigned.erase fd } }
    else c
  | .timer timeoutMs =>
    let c := c.handleTimeoutEvent timeoutMs
    { c with
      curl := { c.curl with timeout := if timeoutMs < 0 then none else some c.timeouts }
      timeouts := c.timeouts + 1 }
  | .openSocket purpose family openError nonBlockingError choice =>
    match c.handleOpenSocket purpose family openError nonBlockingError
        (c.freeDescriptor choice) with
    | (none, c) => c
    | (some fd, c') =>
      { c' with
        curl := { c'.curl with
          owned := c'.curl.owned ++ [c.opened]
          interest := Function.update c'.curl.interest fd .pollNone } }
  | .closeSocket id =>
    if id ∈ c.curl.owned then
      { c with curl := { c.curl with owned := c.curl.owned.erase id } }.handleCloseSocket
        (c.sockets id).fd
    else c
  | .write n data =>
    if c.isTransferring n then (c.log (.data n (.body data))).writeCallback n data else c
  | .header n line =>
    if c.isTransferring n then (c.log (.data n (.header line))).headerCallback n line else c
  | .done n result httpCode =>
    if c.isTransferring n then
      { c.log (.done n result httpCode) with
        curl := { c.curl with
          finished := n :: c.curl.finished
          messages := c.curl.messages ++ [⟨n, result, httpCode⟩] } }
    else c

/-- What a `curl_multi_*` call does, and whether it returns `CURLM_OK`. -/
def curlMulti (c : Client H) : Bool × Client H :=
  match c.script with
  | [] => (true, c)
  | run :: script => (run.ok, run.calls.foldl curlCall { c with script := script })

/-- `curl_multi_socket_action(multi, …, &still_running)`. -/
def curlMultiSocketAction (c : Client H) : Bool × Client H :=
  let (ok, c) := c.curlMulti
  (ok, { c with stillRunning := c.curl.running })

def curlMultiAddHandle (c : Client H) (n : Nat) : Bool × Client H :=
  match c.curlMulti with
  | (true, c) => (true, { c with curl := { c.curl with handles := n :: c.curl.handles } })
  | (false, c) => (false, c)

def curlMultiRemoveHandle (c : Client H) (n : Nat) : Client H :=
  { c with
    curl := { c.curl with
      handles := c.curl.handles.erase n
      messages := c.curl.messages.filter fun msg => msg.easy ≠ n } }.curlMulti.2

/-! ## Requests -/

def applyMethod (easy : EasyOptions) (method : HttpMethod) (conn : ConnContext H) :
    Option Errc × EasyOptions :=
  if (toCurlMethod method).isNone then (some .invalidArgument, easy)
  else
    match method with
    | .get => (none, { easy with httpGet := true })
    | .head => (none, { easy with noBody := true })
    | .post => (none, { easy with post := true, postFields := some conn.body })
    | .put =>
      (none, { easy with customRequest := some "PUT".toList, postFields := some conn.body })
    | .del =>
      (none, { easy with
        customRequest := some "DELETE".toList
        postFields := if conn.body = [] then easy.postFields else some conn.body })
    | .patch =>
      (none, { easy with customRequest := some "PATCH".toList, postFields := some conn.body })
    | .other _ => (some .invalidArgument, easy)

def configureEasyHandle (c : Client H) (easy : EasyOptions) (conn : ConnContext H) :
    Option Errc × EasyOptions :=
  let timeoutMs := if conn.timeout > 0 then conn.timeout else 0
  (none, { easy with
    url := conn.url
    timeoutMs := timeoutMs
    connectTimeoutMs := if timeoutMs > 0 then timeoutMs else 5000
    caInfo := if c.caCertificateFile = [] then easy.caInfo else some c.caCertificateFile
    httpHeader := if conn.curlHeaders = [] then easy.httpHeader else conn.curlHeaders })

/-- One turn of the loop of `check_multi_info()`, with the message it has read. -/
def handleMessage (c : Client H) (msg : Message) : Client H :=
  match c.connections.lookup msg.easy with
  | none => (c.log .notFound).curlMultiRemoveHandle msg.easy
  | some conn =>
    let c := { c with connections := c.connections.erase msg.easy }
    let c := c.curlMultiRemoveHandle msg.easy
    let c := { c with pending := c.pending - 1 }
    let response : HttpResponse :=
      if msg.result = .ok then
        { statusCode := msg.httpCode, body := conn.responseBody, headers := conn.responseHeaders }
      else {}
    (c.log (.ended msg.easy)).answer msg.easy conn.handler
      ((fromCurlCode msg.result).map .errc) response

/-- The loop of `check_multi_info()`. -/
def readMessages : Nat → Client H → Client H
  | 0, c => c
  | fuel + 1, c =>
    match c.curl.messages with
    | [] => c
    | msg :: messages =>
      readMessages fuel ({ c with curl := { c.curl with messages := messages } }.handleMessage msg)

/-- Every turn removes a handle, so the loop ends. -/
def checkMultiInfo (c : Client H) : Client H := readMessages c.curl.handles.length c

/-- `easyInit` is whether `curl_easy_init()` succeeds. -/
def startRequest (c : Client H) (n : Nat) (conn : ConnContext H) (method : HttpMethod)
    (easyInit : Bool) : Client H :=
  if !c.multi then c.answer n conn.handler (some (.errc .operationNotPermitted)) {}
  else if !easyInit then
    c.answer n conn.handler (some (.errc .resourceUnavailableTryAgain)) {}
  else
    match applyMethod {} method conn with
    | (some ec, _) => c.answer n conn.handler (some (.errc ec)) {}
    | (none, easy) =>
      match c.configureEasyHandle easy conn with
      | (some ec, _) => c.answer n conn.handler (some (.errc ec)) {}
      | (none, easy) =>
        match c.curlMultiAddHandle n with
        | (false, c) => c.answer n conn.handler (some (.errc .ioError)) {}
        | (true, c) =>
          let c := { c.log (.accepted n) with
            pending := c.pending + 1
            connections := c.connections.insert n { conn with easy := some easy } }
          match c.curlMultiSocketAction with
          | (true, c) => c.checkMultiInfo
          | (false, c) => c

def doRequest (c : Client H) (args : RequestArgs H) (easyInit : Bool) : Client H :=
  let n := c.calls
  let c : Client H := { c.log (.submitted n args) with calls := n + 1 }
  if (toCurlMethod args.method).isNone then
    c.answer n args.handler (some (.errc .invalidArgument)) {}
  else
    let conn : ConnContext H := {
      easy := none
      curlHeaders := args.headers.map fun header => header.name ++ ": ".toList ++ header.value
      url := "https://".toList ++ args.host ++ ":".toList ++ args.port ++ args.target
      body := args.body
      timeout := args.timeout
      responseBody := []
      responseHeaders := []
      handler := args.handler }
    c.startRequest n conn args.method easyInit

/-- What `do_cancel()` does with one of the connections it has moved out. -/
def cancelConnection (c : Client H) (n : Nat) (conn : ConnContext H) : Client H :=
  let c := if c.multi && conn.easy.isSome then c.curlMultiRemoveHandle n else c
  (c.log (.ended n)).answer n conn.handler (some (.errc .operationCanceled)) {}

/-- The first loop of `do_cancel()`; `order` is the map's. -/
def cancelConnections (c : Client H) (order : List Nat) : Client H :=
  let outstanding := c.connections
  order.foldl (fun c n =>
      match outstanding.lookup n with
      | none => c
      | some conn => c.cancelConnection n conn)
    { c with timer := c.timer.cancel, connections := ∅ }

def doCancel (c : Client H) (order : List Nat) : Client H :=
  let c := c.cancelConnections order
  let c := { c with pending := 0 }
  let c := c.socketMap.entries.foldl (fun c entry => c.closeSocket entry.2) c
  { c with socketMap := ∅, socketActions := ∅, actions := ∅, stillRunning := 0 }

/-! ## Completion handlers -/

/-- A wait on the socket has completed with success. -/
def eventCallback (c : Client H) (id : Nat) : Client H :=
  if !c.multi || !(c.sockets id).isOpen then c
  else
    let fd := (c.sockets id).fd
    match c.curlMultiSocketAction with
    | (false, c) => c
    | (true, c) =>
      let c := c.checkMultiInfo
      if c.stillRunning = 0 then { c with timer := c.timer.cancel }
      else
        match c.socketActions.lookup fd with
        | some action => c.armSocketWatches id action
        | none => c

/-- The timer's wait has completed with success. -/
def asioTimerCallback (c : Client H) : Client H :=
  if !c.multi then c
  else
    match c.curlMultiSocketAction with
    | (false, c) => c
    | (true, c) => c.checkMultiInfo

end Client

/-! ## The system -/

/-- What the executor runs, each with what curl does meanwhile, and what the
system does in between. -/
inductive Event (H : Type) where
  | request (args : RequestArgs H) (easyInit : Bool) (script : List CurlRun)
  /-- `do_cancel()`; `order` is the order in which it meets the connections -/
  | cancel (order : List Nat) (script : List CurlRun)
  | setCaCertificate (file : Text)
  /-- the handler of a wait on a socket -/
  | watch (id : Nat) (wait : SocketWait) (script : List CurlRun)
  /-- the handler of a wait of the timer -/
  | timer (wait : Wait Nat) (script : List CurlRun)
  /-- a descriptor is ready -/
  | ready (id : Nat) (direction : Direction)
  /-- time passes; a wait of the timer expires -/
  | tick (elapsed : Nat)
  | expire (wait : Wait Nat)

/-- A callback that makes exactly the `curl_multi_*` calls of `script`. -/
def Client.callback (c : Client H) (script : List CurlRun) (f : Client H → Client H) :
    Option (Client H) :=
  let c := f { c with script := script }
  if c.script = [] then some c else none

def step (c : Client H) : Event H → Option (Client H)
  | .request args easyInit script => c.callback script (·.doRequest args easyInit)
  | .cancel order script =>
    if order.Perm c.connections.keys then c.callback script (·.doCancel order) else none
  | .setCaCertificate file => some { c with caCertificateFile := file }
  | .watch id wait script => do
    let socket ← (c.sockets id).deliver wait
    let c := c.updateSocket id fun _ => socket
    c.callback script fun c => if wait.status = .fired then c.eventCallback id else c
  | .timer wait script => do
    let timer ← c.timer.deliver wait
    let c := { c with timer := timer }
    -- a timeout is delivered to curl when its own wait completes
    let delivered := wait.status = .fired ∧ c.curl.timeout = some wait.tag
    let c := { c with
      curl := { c.curl with timeout := if delivered then none else c.curl.timeout } }
    c.callback script fun c => if wait.status = .fired then c.asioTimerCallback else c
  | .ready id direction => do
    let socket ← (c.sockets id).fire direction
    some (c.updateSocket id fun _ => socket)
  | .tick elapsed => some { c with now := c.now + elapsed }
  | .expire wait => do
    let timer ← c.timer.fire wait c.now
    some { c with timer := timer }

/-- A client, its executor, curl and the operating system. -/
def system (H : Type) : System (Client H) (Event H) where
  init c := ∃ multi now, c = Client.create multi now
  step := step

end CppComponents.HttpsMultiplexClient
