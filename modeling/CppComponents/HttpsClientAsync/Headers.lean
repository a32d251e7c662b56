import CppComponents.HttpsClientAsync.Requests
import CppComponents.HttpsMultiplexClient.Headers
import CppComponents.KeyedList

/-!
# The headers of a request

`do_request()` puts the headers it is given into the request with Beast's
`fields::set`, which replaces what has the same name in any case. So of two headers
of one name only the later one is sent, where `HttpsMultiplexClient` hands both to
curl.

The message then goes through Beast's `prepare_payload()`, which adjusts the two
framing fields, `Content-Length` and `Transfer-Encoding`, to the body. Beast decides what
they say, so a header of one of these names is sent only if it is what Beast writes
itself (`FramingKept`). What is assumed of `prepare_payload()` is in `PreparesPayload`.

`headers_carried` says that nothing else can go wrong.
-/

namespace CppComponents.HttpsClientAsync

open CppComponents.Transition CppComponents.KeyedList

variable {H : Type}

/-! ## Field names -/

/-- A field name, in lower case. -/
def fieldKey (field : HttpHeader) : List Char := field.name.toList.map Char.toLower

/-- No two names are equal in any case. -/
abbrev DistinctNames (fields : List HttpHeader) : Prop := Distinct fieldKey fields

theorem iequals_iff {field header : HttpHeader} :
    iequals field.name header.name = true ↔ fieldKey field = fieldKey header := by
  simp [iequals, fieldKey]

theorem set_eq (request : HttpRequest) (header : HttpHeader) :
    request.set header.name header.value =
      { request with fields := KeyedList.set fieldKey request.fields header } := by
  have hfilter : request.fields.filter (fun field => !iequals field.name header.name) =
      request.fields.filter (fun field => fieldKey field ≠ fieldKey header) := by
    refine List.filter_congr fun field _ => ?_
    rw [Bool.eq_iff_iff]
    simp [← iequals_iff]
  rw [HttpRequest.set, hfilter]
  rfl

/-- The loop over the headers. -/
theorem foldl_set (headers : List HttpHeader) (request : HttpRequest) :
    headers.foldl (fun request h => request.set h.name h.value) request =
      { request with fields := setAll fieldKey request.fields headers } := by
  induction headers generalizing request with
  | nil => rfl
  | cons header headers ih =>
    rw [List.foldl_cons, ih, set_eq]
    rfl

/-! ## The message -/

/-- The fields `do_request()` sets itself. -/
def ownFields (args : RequestArgs H) : List HttpHeader :=
  [⟨"Host", args.host⟩, ⟨"User-Agent", "https-client"⟩]

theorem distinct_ownFields (args : RequestArgs H) : DistinctNames (ownFields args) := by
  have hkeys : (ownFields args).map fieldKey =
      ["Host".toList.map Char.toLower, "User-Agent".toList.map Char.toLower] := rfl
  rw [DistinctNames, Distinct, hkeys]
  decide

/-- The message `do_request()` calls `prepare_payload()` of. -/
def unpreparedRequest (args : RequestArgs H) : HttpRequest where
  version := 11
  method := toBeastVerb args.method
  target := args.target
  fields := setAll fieldKey (ownFields args) args.headers
  body := args.body

theorem buildRequest_eq (preparePayload : HttpRequest → HttpRequest) (args : RequestArgs H) :
    buildRequest preparePayload args = preparePayload (unpreparedRequest args) := by
  have hne : iequals "Host" "User-Agent" = false := by decide
  have hown (request : HttpRequest) (hfields : request.fields = []) :
      ((request.set "Host" args.host).set "User-Agent" "https-client") =
        { request with fields := ownFields args } := by
    simp [HttpRequest.set, hfields, hne, ownFields]
  simp only [buildRequest, foldl_set]
  rw [hown _ rfl]
  rfl

/-- The same header, for the other client. -/
def HttpHeader.toMultiplex (header : HttpHeader) : HttpsMultiplexClient.HttpHeader :=
  ⟨header.name.toList, header.value.toList⟩

/-- A request carries the headers: all of them, in the given order, and so every line
that the other client hands to curl for them. -/
structure Carries (request : HttpRequest) (headers : List HttpHeader) : Prop where
  fields : headers.Sublist request.fields
  lines : ∀ args : HttpsMultiplexClient.RequestArgs Unit,
    args.headers = headers.map HttpHeader.toMultiplex →
    (HttpsMultiplexClient.requestConn args).curlHeaders.Sublist
      (request.fields.map fun field => field.toMultiplex.render)

theorem carries_iff {request : HttpRequest} {headers : List HttpHeader} :
    Carries request headers ↔ headers.Sublist request.fields := by
  refine ⟨Carries.fields, fun h => ⟨h, fun args hargs => ?_⟩⟩
  have hlines : (HttpsMultiplexClient.requestConn args).curlHeaders =
      headers.map fun header => header.toMultiplex.render := by
    rw [HttpsMultiplexClient.requestConn, hargs, List.map_map]
    rfl
  rw [hlines]
  exact h.map _

/-- Before `prepare_payload()` the message has the headers exactly if their names are
distinct. -/
theorem unpreparedRequest_carries (args : RequestArgs H) :
    Carries (unpreparedRequest args) args.headers ↔ DistinctNames args.headers :=
  carries_iff.trans (sublist_setAll_iff (distinct_ownFields args) args.headers)

/-! ## `prepare_payload()` -/

def isEncoding (field : HttpHeader) : Bool := fieldKey field = "transfer-encoding".toList

/-- The fields `prepare_payload()` adjusts. -/
def isFraming (field : HttpHeader) : Bool :=
  fieldKey field = "content-length".toList || isEncoding field

/-- What Beast decides of the framing of a request. -/
structure PayloadRules where
  /-- Is a request of this method and with this body sent with a `Content-Length`? Beast does
  so if there is a body, and for the methods that anticipate one, as POST and PUT. -/
  hasLength : Verb → String → Bool
  /-- the value of a `Transfer-Encoding` without the `chunked` at its end -/
  unchunked : String → String

/-- `Content-Length`, as `message::content_length()` sets it or clears it. -/
def PayloadRules.lengthField (rules : PayloadRules) (method : Verb) (body : String) :
    List HttpHeader :=
  if rules.hasLength method body then [⟨"Content-Length", toString body.utf8ByteSize⟩] else []

/-- `Transfer-Encoding`, as `message::chunked()` leaves it of a message that is not chunked:
what is left of the field there was, if anything. -/
def PayloadRules.encodingField (rules : PayloadRules) (fields : List HttpHeader) :
    List HttpHeader :=
  match fields.find? isEncoding with
  | none => []
  | some field =>
    if rules.unchunked field.value = "" then []
    else [⟨"Transfer-Encoding", rules.unchunked field.value⟩]

/-- What Beast's `prepare_payload()` does to the fields of a request: it adjusts the two
framing fields, each with `set`, and the others stay as they are. -/
structure PreparesPayload (rules : PayloadRules) (preparePayload : HttpRequest → HttpRequest) :
    Prop where
  fields : ∀ request, (preparePayload request).fields =
    request.fields.filter (fun field => !isFraming field) ++
      (rules.lengthField request.method request.body ++ rules.encodingField request.fields)

/-- The framing fields among the headers are what Beast writes itself, and where it writes
them, which is after the others. -/
def FramingKept (rules : PayloadRules) (args : RequestArgs H) : Prop :=
  args.headers = args.headers.filter (fun field => !isFraming field) ++
    args.headers.filter isFraming ∧
  (args.headers.filter isFraming).Sublist
    (rules.lengthField (toBeastVerb args.method) args.body ++ rules.encodingField args.headers)

instance (rules : PayloadRules) (args : RequestArgs H) : Decidable (FramingKept rules args) :=
  inferInstanceAs (Decidable (_ ∧ _))

variable {rules : PayloadRules} {preparePayload : HttpRequest → HttpRequest}

theorem isFraming_congr {field field' : HttpHeader} (h : fieldKey field = fieldKey field') :
    isFraming field = isFraming field' := by
  simp only [isFraming, isEncoding, h]

namespace PayloadRules

theorem mem_lengthField {method : Verb} {body : String} {field : HttpHeader}
    (h : field ∈ rules.lengthField method body) : field.name = "Content-Length" := by
  unfold lengthField at h
  split at h
  · rw [List.mem_singleton.mp h]
  · cases h

theorem mem_encodingField {fields : List HttpHeader} {field : HttpHeader}
    (h : field ∈ rules.encodingField fields) : field.name = "Transfer-Encoding" := by
  unfold encodingField at h
  split at h
  · cases h
  · split at h
    · cases h
    · rw [List.mem_singleton.mp h]

/-- What Beast writes are framing fields. -/
theorem isFraming_of_mem {method : Verb} {body : String} {fields : List HttpHeader} :
    ∀ field ∈ rules.lengthField method body ++ rules.encodingField fields,
      isFraming field = true := by
  intro field hmem
  rcases List.mem_append.mp hmem with hmem | hmem
  · have hkey : fieldKey field = "Content-Length".toList.map Char.toLower := by
      rw [fieldKey, mem_lengthField hmem]
    rw [isFraming, isEncoding, hkey]
    decide
  · have hkey : fieldKey field = "Transfer-Encoding".toList.map Char.toLower := by
      rw [fieldKey, mem_encodingField hmem]
    rw [isFraming, isEncoding, hkey]
    decide

/-- It writes each of them once. -/
theorem distinct_framing {method : Verb} {body : String} {fields : List HttpHeader} :
    DistinctNames (rules.lengthField method body ++ rules.encodingField fields) := by
  have hlength : ((rules.lengthField method body).map fieldKey).Sublist
      ["Content-Length".toList.map Char.toLower] := by
    unfold lengthField
    split
    · exact .refl _
    · exact List.nil_sublist _
  have hencoding : ((rules.encodingField fields).map fieldKey).Sublist
      ["Transfer-Encoding".toList.map Char.toLower] := by
    unfold encodingField
    split
    · exact List.nil_sublist _
    · split
      · exact List.nil_sublist _
      · exact .refl _
  rw [DistinctNames, Distinct, List.map_append]
  exact (hlength.append hencoding).nodup (by decide)

end PayloadRules

/-- The names stay distinct. -/
theorem PreparesPayload.distinct (h : PreparesPayload rules preparePayload)
    {request : HttpRequest} (hdistinct : DistinctNames request.fields) :
    DistinctNames (preparePayload request).fields := by
  rw [h.fields, DistinctNames, Distinct, List.map_append, List.nodup_append]
  refine ⟨hdistinct.sublist List.filter_sublist, PayloadRules.distinct_framing, ?_⟩
  rintro _ hother _ hframing rfl
  obtain ⟨field, hfield, hkey⟩ := List.mem_map.mp hother
  obtain ⟨field', hfield', hkey'⟩ := List.mem_map.mp hframing
  have hnot : isFraming field = false := by simpa using (List.mem_filter.mp hfield).2
  have hyes := PayloadRules.isFraming_of_mem field' hfield'
  rw [isFraming_congr (hkey'.trans hkey.symm), hnot] at hyes
  cases hyes

/-- The `Transfer-Encoding` of the message is that of the headers. -/
theorem encodingField_unprepared {args : RequestArgs H} (h : DistinctNames args.headers) :
    rules.encodingField (unpreparedRequest args).fields = rules.encodingField args.headers := by
  have hown : ∀ field ∈ ownFields args, fieldKey field ≠ "transfer-encoding".toList := by
    intro field hmem
    rcases List.mem_pair.mp hmem with rfl | rfl
    · show "Host".toList.map Char.toLower ≠ _
      decide
    · show "User-Agent".toList.map Char.toLower ≠ _
      decide
  have hfilter : (unpreparedRequest args).fields.filter isEncoding =
      args.headers.filter isEncoding := filter_setAll hown h
  have hfind : (unpreparedRequest args).fields.find? isEncoding =
      args.headers.find? isEncoding := by
    rw [← List.head?_filter, hfilter, List.head?_filter]
  rw [PayloadRules.encodingField, hfind, PayloadRules.encodingField]

/-- After `prepare_payload()` the message has the headers exactly if their names are distinct
and the framing fields among them are what Beast writes. -/
theorem buildRequest_carries (hp : PreparesPayload rules preparePayload) (args : RequestArgs H) :
    Carries (buildRequest preparePayload args) args.headers ↔
      DistinctNames args.headers ∧ FramingKept rules args := by
  have hfields : (buildRequest preparePayload args).fields =
      (unpreparedRequest args).fields.filter (fun field => !isFraming field) ++
        (rules.lengthField (toBeastVerb args.method) args.body ++
          rules.encodingField (unpreparedRequest args).fields) := by
    rw [buildRequest_eq, hp.fields]
    rfl
  have hothers : ∀ field ∈ (unpreparedRequest args).fields.filter (fun field => !isFraming field),
      isFraming field = false := fun field hfield => by
    simpa using (List.mem_filter.mp hfield).2
  rw [carries_iff, hfields, sublist_append_iff_of_apart hothers PayloadRules.isFraming_of_mem]
  constructor
  · rintro ⟨heq, hkept, hframing⟩
    have hdistinct : DistinctNames args.headers := by
      have hunprepared : DistinctNames (unpreparedRequest args).fields :=
        (distinct_ownFields args).setAll args.headers
      refine (hp.distinct hunprepared).sublist ?_
      rw [← buildRequest_eq preparePayload args, hfields, heq]
      exact hkept.append hframing
    rw [encodingField_unprepared hdistinct] at hframing
    exact ⟨hdistinct, heq, hframing⟩
  · rintro ⟨hdistinct, heq, hframing⟩
    rw [encodingField_unprepared hdistinct]
    exact ⟨heq, (sublist_setAll hdistinct (ownFields args)).filter _, hframing⟩

/-- The running request's message is the one that was built for it. -/
theorem exists_args_of_inProgress {c : Client H}
    (hr : Reachable (system H preparePayload) anyStep c) (hstate : c.state = .inProgress) :
    ∃ args, .submitted c.current args .idle ∈ c.trace ∧
      c.httpRequest = buildRequest preparePayload args := by
  obtain ⟨args, operation, hserves⟩ := (answering_of_reachable hr).running hstate
  obtain ⟨results, -, hrecord⟩ := hserves.fate.results_of_running
  have hsubmitted : .submitted c.current args .idle ∈ c.about c.current := by
    rw [hrecord]
    exact List.mem_cons_self
  exact ⟨args, List.mem_of_mem_filter hsubmitted, hserves.request⟩

/-- **Which headers are sent.** For every list of headers:

- the message has them all, in order, when `do_request()` has put them in, if and only
  if no two of their names are equal in any case;
- after `prepare_payload()` it has them if and only if, besides, the framing fields among
  them are the ones that Beast writes;
- this is the message of the running request, in every run. -/
theorem headers_carried (hp : PreparesPayload rules preparePayload) :
    (∀ args : RequestArgs H,
      (Carries (unpreparedRequest args) args.headers ↔ DistinctNames args.headers) ∧
      (Carries (buildRequest preparePayload args) args.headers ↔
        DistinctNames args.headers ∧ FramingKept rules args)) ∧
    ∀ c : Client H, Reachable (system H preparePayload) anyStep c → c.state = .inProgress →
      ∃ args, .submitted c.current args .idle ∈ c.trace ∧
        c.httpRequest = buildRequest preparePayload args :=
  ⟨fun args => ⟨unpreparedRequest_carries args, buildRequest_carries hp args⟩,
    fun _ hr hstate => exists_args_of_inProgress hr hstate⟩

/-- Beast's rules, for requests without a `Transfer-Encoding`. -/
def plainRules : PayloadRules where
  hasLength method body := body ≠ "" || method = .post || method = .put
  unchunked value := value

/-- `prepare_payload()` by these rules. -/
def plainPayload (request : HttpRequest) : HttpRequest :=
  { request with
    fields := request.fields.filter (fun field => !isFraming field) ++
      (plainRules.lengthField request.method request.body ++
        plainRules.encodingField request.fields) }

theorem preparesPayload_plain : PreparesPayload plainRules plainPayload := ⟨fun _ => rfl⟩

/-- A `get()` that accepts two types. -/
def acceptTwo : RequestArgs Nat :=
  { getRoot 0 with headers := [⟨"Accept", "text/html"⟩, ⟨"accept", "text/plain"⟩] }

/-- Only the second `Accept` is sent. -/
theorem not_carries_acceptTwo :
    ¬ ∀ rules preparePayload, PreparesPayload rules preparePayload → ∀ args : RequestArgs Nat,
      Carries (buildRequest preparePayload args) args.headers := by
  intro hclaim
  have hfields : (buildRequest plainPayload acceptTwo).fields =
      [⟨"Host", "localhost"⟩, ⟨"User-Agent", "https-client"⟩, ⟨"accept", "text/plain"⟩] := by
    decide
  have hsub := (hclaim plainRules plainPayload preparesPayload_plain acceptTwo).fields
  rw [hfields] at hsub
  exact absurd hsub (by decide)

/-- A `post()` of three characters with a `Content-Length`. -/
def postLength (length : String) : RequestArgs Nat :=
  { getRoot 0 with
    method := .post
    body := "abc"
    headers := [⟨"Accept", "text/html"⟩, ⟨"X-Trace", "7"⟩, ⟨"Content-Length", length⟩] }

/-- The right length is sent, and a wrong one is not. -/
theorem headers_carried_postLength :
    Carries (buildRequest plainPayload (postLength "3")) (postLength "3").headers ∧
    ¬ Carries (buildRequest plainPayload (postLength "99")) (postLength "99").headers := by
  have hcarried := (headers_carried (H := Nat) preparesPayload_plain).1
  exact ⟨(hcarried (postLength "3")).2.mpr (by decide),
    fun h => absurd ((hcarried (postLength "99")).2.mp h) (by decide)⟩

end CppComponents.HttpsClientAsync
