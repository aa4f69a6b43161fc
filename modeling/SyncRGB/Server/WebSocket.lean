import SyncRGB.JsonRpc.RequestTexts

/-! A message to the WebSocket server, on the thread of its io loop, and when no exception leaves the handling
of it. -/
namespace SyncRGB
open ByteCodec Effect JsonRpc JSONRPCHandler

/-- How the transport ends a `send`: by nothing, or by a `websocketpp::exception`. -/
inductive Sending where
  | sent
  | failed
  deriving DecidableEq, Repr

/-- What ends the handling of a message early: a `json::type_error` that nothing catches, or an access
outside a vector, behind which nothing is defined. -/
inductive Leaving where
  | typeError
  | outside
  deriving DecidableEq, Repr

structure WebSocketServer (ω : Type) where
  handler : JSONRPCHandler ω
  sent : List Json
  shutdownScheduled : Bool

namespace WebSocketServer
variable {ω : Type}

abbrev OnLoop (ω α : Type) := Changing Leaving (WebSocketServer ω) α

/-- `WebSocketServer::IsLoopbackAddress`. -/
def isLoopbackAddress (ip : Bytes) : Bool :=
  ip = ascii "127.0.0.1" || ip = ascii "::1" || ip = ascii "localhost" ||
    8 ≤ ip.length && ip.take 4 = ascii "127."

/-- `WebSocketServer::SendToClient`. The text is made before anything is sent. -/
def sendToClient (sending : Sending) (response : Json) : OnLoop ω Unit :=
  if response.dumps then
    match sending with
    | .sent => modify fun s => { s with sent := s.sent ++ [response] }
    | .failed => return ()
  else throw .typeError

def scheduleShutdown : OnLoop ω Unit := modify fun s => { s with shutdownScheduled := true }

def parseErrorResponse : Json :=
  .object [(ascii "jsonrpc", .string (ascii "2.0")),
    (ascii "error", .object [(ascii "code", .integer (-32700)), (ascii "message", .string (ascii "Parse error"))]),
    (ascii "id", .null)]

/-- A single request for the shutdown is answered by the server itself. -/
def isShutdown (request : Json) : Bool :=
  match request.find "method" with
  | some (.string method) => method = ascii "server.shutdown"
  | _ => false

def shutdownResponse (loopback : Bool) (id : Int32) : Json :=
  .object [(ascii "jsonrpc", .string (ascii "2.0")), (ascii "id", .ofInt32 id),
    if loopback then (ascii "result", messageResult true "Shutdown scheduled")
    else (ascii "error", .object [(ascii "code", .integer (.ofInt errOperationNotPermitted)),
      (ascii "message", .string (ascii "Shutdown is only permitted from loopback clients"))])]

/-- The id is read outside every `try`. -/
def shutdown (request : Json) (loopback : Bool) (sending : Sending) : OnLoop ω Unit := do
  let id ← (requestId request).mapError fun _ => Leaving.typeError
  sendToClient sending (shutdownResponse loopback id)
  if loopback then scheduleShutdown

section
variable (env : Environment ω)

/-- The reply of the request handler, and its state. -/
def respond (request : Json) (loopback : Bool) (h : JSONRPCHandler ω) : Json × Option (JSONRPCHandler ω) :=
  match request with
  | .array _ => handleBatchRequest (answering env) request loopback (some h)
  | _ => handleRequest (answering env) request loopback (some h)

def response (request : Json) (loopback : Bool) : OnLoop ω Json := fun s =>
  match respond env request loopback s.handler with
  | (response, some handler) => (.ok response, { s with handler })
  | (_, none) => (.error .outside, s)

/-- `JSONRPCHandler::TakeShutdownRequested`. -/
def takeShutdownRequested : OnLoop ω Bool := do
  let s ← get
  set { s with handler := { s.handler with shutdownRequested := false } }
  return s.handler.shutdownRequested

def dispatch (request : Json) (loopback : Bool) (sending : Sending) : OnLoop ω Unit := do
  let response ← response env request loopback
  let shutdownRequested ← takeShutdownRequested
  sendToClient sending response
  if shutdownRequested then scheduleShutdown

/-- `WebSocketServer::OnMessage`. Frames that are no text are refused. -/
def onMessage (parse : Bytes → Option Json) (isText : Bool) (payload ip : Bytes) (sending : Sending) :
    OnLoop ω Unit :=
  if isText then
    match parse payload with
    | some request =>
        if isShutdown request then shutdown request (isLoopbackAddress ip) sending
        else dispatch env request (isLoopbackAddress ip) sending
    | none => sendToClient sending parseErrorResponse
  else return ()

end

/-! ### Steps -/

/-- A value that an `int` is made of. -/
def isNumber : Json → Bool
  | .unsigned _ | .integer _ | .float _ | .boolean _ => true
  | .null | .string _ | .array _ | .object _ => false

theorem requestId_ok {request : Json} :
    (∃ id, requestId request = .ok id) ↔ ∀ j, request.find "id" = some j → isNumber j = true := by
  unfold requestId
  cases found : request.find "id" with
  | none =>
      apply iff_of_true ⟨0, rfl⟩
      intro j other
      cases other
  | some j =>
      have only : (∀ j', some j = some j' → isNumber j' = true) ↔ isNumber j = true := by
        constructor
        · intro all
          exact all j rfl
        · intro number j' same
          cases same
          exact number
      rw [only]
      cases j with
      | null | string | array | object =>
          apply iff_of_false
          · rintro ⟨id, other⟩
            cases other
          · intro other
            cases other
      | _ => exact iff_of_true ⟨_, rfl⟩ rfl

theorem sendToClient_ok {sending : Sending} {response : Json} {s : WebSocketServer ω} :
    (sendToClient sending response s).1 = .ok () ↔ response.dumps = true := by
  unfold sendToClient
  cases response.dumps with
  | true =>
      apply iff_of_true _ rfl
      cases sending with
      | sent => rfl
      | failed => rfl
  | false =>
      apply iff_of_false
      · intro other
        cases other
      · intro other
        cases other

/-- In front of steps that always return, it is the first that has to. -/
theorem returns_behind {m : OnLoop ω Unit} {rest : OnLoop ω Unit} (returns : ∀ t, (rest t).1 = .ok ())
    {s : WebSocketServer ω} : ((do m; rest) s).1 = .ok () ↔ (m s).1 = .ok () := by
  rcases run_cases m s with ⟨⟨⟩, t, run⟩ | ⟨e, t, run⟩
  · rw [bind_ok run, run]
    exact iff_of_true (returns t) rfl
  · rw [bind_error run, run]

theorem scheduled_returns (wanted : Bool) (t : WebSocketServer ω) :
    ((if wanted then scheduleShutdown else return () : OnLoop ω Unit) t).1 = .ok () := by
  cases wanted with
  | true => rfl
  | false => rfl

theorem shutdownResponse_dumps (loopback : Bool) (id : Int32) : (shutdownResponse loopback id).dumps = true := by
  have version : isUtf8 (ascii "2.0") = true := isUtf8_ofList (by decide)
  cases loopback with
  | true =>
      have scheduled : (messageResult true "Shutdown scheduled").dumps = true :=
        messageResult_dumps (isUtf8_ofList (by decide))
      rw [shutdownResponse, Json.dumps_object_of_ascii rfl]
      simp [version, scheduled]
  | false =>
      have refused : (Json.object [(ascii "code", .integer (.ofInt errOperationNotPermitted)),
          (ascii "message", .string (ascii "Shutdown is only permitted from loopback clients"))]).dumps = true := by
        rw [Json.dumps_object_of_ascii rfl]
        simpa using isUtf8_ofList (by decide)
      rw [shutdownResponse, Json.dumps_object_of_ascii rfl]
      simp [version, refused]

theorem parseErrorResponse_dumps : parseErrorResponse.dumps = true := by
  have version : isUtf8 (ascii "2.0") = true := isUtf8_ofList (by decide)
  have error : (Json.object [(ascii "code", .integer (-32700)),
      (ascii "message", .string (ascii "Parse error"))]).dumps = true := by
    rw [Json.dumps_object_of_ascii rfl]
    simpa using isUtf8_ofList (by decide)
  rw [parseErrorResponse, Json.dumps_object_of_ascii rfl]
  simp [version, error]

theorem shutdown_ok {request : Json} {loopback : Bool} {sending : Sending} {s : WebSocketServer ω} :
    (shutdown request loopback sending s).1 = .ok () ↔
      ∀ j, request.find "id" = some j → isNumber j = true := by
  rw [← requestId_ok, shutdown]
  cases requestId request with
  | error what =>
      apply iff_of_false
      · intro other
        cases other
      · rintro ⟨id, other⟩
        cases other
  | ok id =>
      apply iff_of_true _ ⟨id, rfl⟩
      exact (returns_behind (scheduled_returns loopback)).mpr
        (sendToClient_ok.mpr (shutdownResponse_dumps loopback id))

theorem dispatch_ok {env : Environment ω} {request : Json} {loopback : Bool} {sending : Sending}
    {s : WebSocketServer ω} : (dispatch env request loopback sending s).1 = .ok () ↔
      ∃ t, (respond env request loopback s.handler).2 = some t ∧
        (respond env request loopback s.handler).1.dumps = true := by
  cases replied : respond env request loopback s.handler with
  | mk reply state =>
      cases state with
      | none =>
          have run : response env request loopback s = (.error .outside, s) := by rw [response, replied]
          rw [dispatch, bind_error run]
          apply iff_of_false
          · intro other
            cases other
          · rintro ⟨t, other, -⟩
            cases other
      | some handler =>
          have run : response env request loopback s = (.ok reply, { s with handler }) := by
            rw [response, replied]
          have taken (u : WebSocketServer ω) : takeShutdownRequested u =
              ((.ok u.handler.shutdownRequested,
                { u with handler := { u.handler with shutdownRequested := false } }) :
                Except Leaving Bool × WebSocketServer ω) := rfl
          rw [dispatch, bind_ok run, bind_ok (taken _)]
          apply (returns_behind (scheduled_returns _)).trans
          apply sendToClient_ok.trans
          constructor
          · intro dumped
            exact ⟨handler, rfl, dumped⟩
          · rintro ⟨t, -, dumped⟩
            exact dumped

/-! ### Messages -/

section
variable (env : Environment ω)

/-- What a request is served by stays inside the vectors, and the texts it reports are in UTF-8. In a batch it
is each of the requests, in the state that the ones in front of it leave. -/
def Served (request : Json) (loopback : Bool) (h : JSONRPCHandler ω) : Prop :=
  match request with
  | .array requests => ∃ t, ServedRequests env loopback requests h t
  | _ => ∃ t, ServedRequest env request loopback h t

/-- The message is no text or no JSON, a shutdown whose id is missing or a number, or a request that is
served. -/
def Harmless (parse : Bytes → Option Json) (isText : Bool) (payload ip : Bytes) (h : JSONRPCHandler ω) : Prop :=
  isText = true → ∀ request, parse payload = some request →
    if isShutdown request then ∀ j, request.find "id" = some j → isNumber j = true
    else Served env request (isLoopbackAddress ip) h

variable {env}

theorem respond_ok (texts : env.TextsInUtf8) {request : Json} (dumped : request.dumps = true) {loopback : Bool}
    {h : JSONRPCHandler ω} : (∃ t, (respond env request loopback h).2 = some t ∧
      (respond env request loopback h).1.dumps = true) ↔ Served env request loopback h := by
  have single (answered : respond env request loopback h = handleRequest (answering env) request loopback (some h)) :
      (∃ t, (respond env request loopback h).2 = some t ∧ (respond env request loopback h).1.dumps = true) ↔
        ∃ t, ServedRequest env request loopback h t := by
    rw [answered]
    constructor
    · rintro ⟨t, inside, written⟩
      exact ⟨t, inside, (handleRequest_dumps texts dumped inside).mp written⟩
    · rintro ⟨t, inside, harmless⟩
      exact ⟨t, inside, (handleRequest_dumps texts dumped inside).mpr harmless⟩
  cases request with
  | array requests =>
      have each : ∀ request ∈ requests, request.dumps = true := by
        rw [Json.dumps_array, List.all_eq_true] at dumped
        exact dumped
      have written : (respond env (.array requests) loopback h).1.dumps =
          (handleRequests (answering env) loopback requests (some h)).1.all Json.dumps := Json.dumps_array _
      rw [written]
      apply exists_congr
      intro t
      exact handleRequests_dumps texts each
  | _ => exact single rfl

/-- No exception leaves the handling of a message, exactly when the message is harmless to the state it comes
to, whatever becomes of the reply. -/
theorem onMessage_returns (texts : env.TextsInUtf8) {parse : Bytes → Option Json}
    (parsed : ∀ payload request, parse payload = some request → request.dumps = true) (isText : Bool)
    (payload ip : Bytes) (sending : Sending) (s : WebSocketServer ω) :
    (onMessage env parse isText payload ip sending s).1 = .ok () ↔
      Harmless env parse isText payload ip s.handler := by
  unfold onMessage Harmless
  cases isText with
  | false =>
      apply iff_of_true rfl
      intro other
      cases other
  | true =>
      cases read : parse payload with
      | none =>
          apply iff_of_true (sendToClient_ok.mpr parseErrorResponse_dumps)
          intro _ request other
          cases other
      | some request =>
          have only (demand : Json → Prop) :
              (true = true → ∀ request', some request = some request' → demand request') ↔ demand request := by
            constructor
            · intro all
              exact all rfl request rfl
            · intro holds _ request' same
              cases same
              exact holds
          rw [only]
          dsimp only
          rw [if_pos rfl]
          split
          · exact shutdown_ok
          · exact dispatch_ok.trans (respond_ok texts (parsed payload request read))

end

/-- A handler without managers. -/
def plainEnvironment : Environment Unit :=
  { fixedSizes with
    resourceManager := none
    profileManager := none
    versionString := ascii "1.0"
    jsonWhat := fun _ _ _ _ => ascii "[json.exception.type_error.302] type must be number, but is null"
    vectorTooLong := ascii "vector::_M_default_append" }

def serverOf (name : Bytes) : WebSocketServer Unit where
  handler :=
    { devices := ⟨[{ RGBController.new 0 with name }], ()⟩, rescanInProgress := false, shutdownRequested := false }
  sent := []
  shutdownScheduled := false

def requestText (method id : String) : Bytes :=
  ascii ("\x7b\"jsonrpc\":\"2.0\",\"method\":\"" ++ method ++ "\",\"id\":" ++ id ++ "\x7d")

/-- The parser, on one request. -/
def parseRequest (method id : String) (value : Json) (payload : Bytes) : Option Json :=
  if payload = requestText method id then
    some (.object [(ascii "id", value), (ascii "jsonrpc", .string (ascii "2.0")),
      (ascii "method", .string (ascii method))])
  else none

theorem plainEnvironment_texts : plainEnvironment.TextsInUtf8 where
  version := isUtf8_ofList (by decide)
  jsonWhat _ _ _ _ := isUtf8_ofList (by decide)
  vectorTooLong := isUtf8_ofList (by decide)

theorem parseRequest_dumps {method id : String} {value : Json} (name : isUtf8 (ascii method) = true)
    (written : value.dumps = true) {payload : Bytes} {request : Json}
    (read : parseRequest method id value payload = some request) : request.dumps = true := by
  have version : isUtf8 (ascii "2.0") = true := isUtf8_ofList (by decide)
  unfold parseRequest at read
  split at read
  · cases read
    rw [Json.dumps_object_of_ascii rfl]
    simp [version, name, written]
  · cases read

/-- A device with a plain name is reported, even when the transport fails. -/
theorem onMessage_returns_name :
    (onMessage plainEnvironment (parseRequest "device.getControllers" "1" (.unsigned 1)) true
      (requestText "device.getControllers" "1") (ascii "127.0.0.1") .failed (serverOf (ascii "Lamp"))).1 =
        .ok () := by
  have parsed : ∀ payload request,
      parseRequest "device.getControllers" "1" (.unsigned 1) payload = some request → request.dumps = true :=
    fun _ _ => parseRequest_dumps (isUtf8_ofList (by decide)) rfl
  apply (onMessage_returns plainEnvironment_texts parsed true _ _ _ _).mpr
  intro _ request read
  cases read.symm.trans (if_pos rfl)
  refine ⟨(serverOf (ascii "Lamp")).handler, by rfl, ?_⟩
  intro _ name params id parsed method found
  cases parsed
  have known : findMethod (ascii "device.getControllers") = some .getControllers := by decide +kernel
  cases found.symm.trans known
  exact .inr (by decide +kernel)

/-- A shutdown whose id is null, and a device with a name that is no UTF-8. -/
theorem onMessage_throws :
    (onMessage plainEnvironment (parseRequest "server.shutdown" "null" .null) true
      (requestText "server.shutdown" "null") (ascii "127.0.0.1") .sent (serverOf [])).1 = .error .typeError ∧
    (onMessage plainEnvironment (parseRequest "device.getControllers" "1" (.unsigned 1)) true
      (requestText "device.getControllers" "1") (ascii "127.0.0.1") .sent (serverOf [0xFF])).1 =
        .error .typeError := by
  constructor
  · decide +kernel
  · decide +kernel

end WebSocketServer
end SyncRGB
