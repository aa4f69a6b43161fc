import SyncRGB.JsonRpc.Json

/-! The request handler: it takes a request apart, has its method called and puts the reply into an
envelope. -/
namespace SyncRGB
open ByteCodec

namespace Json

/-- A C++ `int` becomes a signed number, whatever its sign. -/
def ofInt32 (i : Int32) : Json := integer i.toInt64

/-- `type_name`. -/
def typeName : Json → String
  | null => "null"
  | boolean _ => "boolean"
  | unsigned _ | integer _ | float _ => "number"
  | string _ => "string"
  | array _ => "array"
  | object _ => "object"

/-- `what()` of a failed conversion. -/
def typeErrorText (expected : String) (j : Json) : Bytes :=
  ascii ("[json.exception.type_error.302] type must be " ++ expected ++ ", but is " ++ j.typeName)

end Json

namespace JsonRpc

def invalidRequest : Int := -32600
def internalError : Int := -32603

/-- `JSONRPCHandler::CreateError`, never with data. -/
def createError (code : Int) (message : Bytes) : Json :=
  .object [(ascii "error",
    .object [(ascii "code", .integer (.ofInt code)), (ascii "message", .string message)])]

/-- `JSONRPCHandler::CreateResult`. -/
def createResult (result : Json) (id : Int32) : Json :=
  .object [(ascii "jsonrpc", .string (ascii "2.0")), (ascii "result", result), (ascii "id", .ofInt32 id)]

/-- `JSONRPCHandler::GetClients`. -/
def getClients : Json := .object [(ascii "clients", .array [])]

/-- `JSONRPCHandler::CallMethod`: the reply, or the `what()` of an exception, and the state it leaves. The
last argument but one tells whether the client is on this machine. -/
abbrev CallMethod (σ : Type) := Bytes → Json → Bool → σ → Except Bytes Json × σ

/-- `request.contains("jsonrpc") && request["jsonrpc"] == "2.0"`. -/
def hasVersion (request : Json) : Bool :=
  match request.find "jsonrpc" with
  | some (.string version) => version = ascii "2.0"
  | _ => false

/-- The conversion to a `std::string`. -/
def methodName : Json → Except Bytes Bytes
  | .string method => .ok method
  | j => .error (j.typeErrorText "string")

/-- `request.value("id", 0)` as an `int`. -/
def requestId (request : Json) : Except Bytes Int32 :=
  match request.find "id" with
  | some j =>
      match j.toWord with
      | .ok id => .ok id.toInt32
      | .error _ => .error (j.typeErrorText "number")
  | none => .ok 0

/-- The method, `params` and `id` of a request. -/
def requestFields (request : Json) : Except Bytes (Bytes × Json × Int32) := do
  let method ← methodName ((request.find "method").getD .null)
  let params := (request.find "params").getD (.object [])
  let id ← requestId request
  return (method, params, id)

/-- What a `std::exception` that reached the handler is answered with. -/
def exceptionReply (what : Bytes) : Json := createError internalError (ascii "Internal error: " ++ what)

/-- The envelope of what a method returned. -/
def methodReply (result : Json) (id : Int32) : Json :=
  match result.find "error" with
  | some error =>
      .object [(ascii "jsonrpc", .string (ascii "2.0")), (ascii "error", error), (ascii "id", .ofInt32 id)]
  | none => createResult result id

section
variable {σ : Type} (callMethod : CallMethod σ)

/-- `JSONRPCHandler::HandleRequest`. -/
def handleRequest (request : Json) (clientIsLoopback : Bool) (s : σ) : Json × σ :=
  if !hasVersion request then
    (createError invalidRequest (ascii "Missing or invalid 'jsonrpc' field"), s)
  else if !request.contains "method" then
    (createError invalidRequest (ascii "Missing 'method' field"), s)
  else
    match requestFields request with
    | .error what => (exceptionReply what, s)
    | .ok (method, params, id) =>
        match callMethod method params clientIsLoopback s with
        | (.error what, s) => (exceptionReply what, s)
        | (.ok result, s) => (methodReply result id, s)

/-- The loop of `HandleBatchRequest`. -/
def handleRequests (clientIsLoopback : Bool) : List Json → σ → List Json × σ
  | [], s => ([], s)
  | request :: rest, s =>
      let (response, s) := handleRequest callMethod request clientIsLoopback s
      let (responses, s) := handleRequests clientIsLoopback rest s
      (response :: responses, s)

/-- `JSONRPCHandler::HandleBatchRequest`. -/
def handleBatchRequest (requests : Json) (clientIsLoopback : Bool) (s : σ) : Json × σ :=
  match requests with
  | .array requests =>
      let (responses, s) := handleRequests callMethod clientIsLoopback requests s
      (.array responses, s)
  | _ => (createError invalidRequest (ascii "Batch request must be an array"), s)

end
end JsonRpc
end SyncRGB
