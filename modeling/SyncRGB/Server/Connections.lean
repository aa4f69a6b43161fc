import Mathlib.Data.List.AList
import SyncRGB.Server.LoopbackShutdown
import SyncRGB.Transition.Run

/-! The connections of the WebSocket server: what the handlers of its io thread, the notifications and the stop do
to the clients, one step for each section under the lock. -/
namespace SyncRGB
open ByteCodec JsonRpc JSONRPCHandler Transition

/-- What the transport knows of a connection. -/
structure Peer where
  endpoint : Bytes
  uri : Bytes

/-- `WebSocketClientInfo` with the number of its allocation. -/
structure ClientInfo where
  address : Nat
  clientIP : Bytes
  deriving DecidableEq, Repr

abbrev ClientMap (Conn : Type) := AList fun _ : Conn => ClientInfo

inductive ClientEvent where
  | clientConnected
  | clientDisconnected
  deriving DecidableEq, Repr

/-- A connection is `closing` when the server has closed it, and `over` when the transport has reported its end. -/
inductive Phase where
  | fresh
  | opened
  | closing
  | over
  deriving DecidableEq, Repr

/-- Between two handlers, in front of the notification that ends one, or left. -/
inductive IoThread (Conn : Type) where
  | idle
  | notifying (event : ClientEvent) (connection : Conn) (clientIP : Bytes)
  | ended
  deriving DecidableEq, Repr

inductive Stage where
  | online
  | stopping
  | stopped
  deriving DecidableEq, Repr

/-- Beside the server stand the states of the transport, and logs: for whom each info was allocated, which infos
were freed, whether one was used after that, who the notifications were about, and the requests that came to the
request handler or scheduled a shutdown. -/
structure Connections (Conn ω : Type) where
  server : WebSocketServer ω
  clients : ClientMap Conn
  phase : Conn → Phase
  io : IoThread Conn
  stage : Stage
  allocated : List Conn
  freed : List Nat
  misused : Bool
  notified : List (ClientEvent × Conn)
  passed : List (Conn × Json)

structure SocketService (Conn ω : Type) where
  env : Environment ω
  parse : Bytes → Option Json
  requireAuth : Bool
  authTokens : List Bytes
  peers : Conn → Peer

/-! ### Tokens -/

namespace WebSocketServer

/-- What stands behind the first occurrence of the key. -/
def behind (key : Bytes) : Bytes → Option Bytes
  | [] => none
  | x :: xs => if key <+: x :: xs then some ((x :: xs).drop key.length) else behind key xs

/-- `WebSocketServer::ExtractTokenFromUri`. -/
def extractTokenFromUri (uri : Bytes) : Bytes :=
  match behind (ascii "token=") uri with
  | some rest => rest.takeWhile (· != 38)
  | none => []

/-- `WebSocketServer::AuthenticateClient`. -/
def authenticateClient (requireAuth : Bool) (authTokens : List Bytes) (token : Bytes) : Bool :=
  if requireAuth then token ≠ [] ∧ token ∈ authTokens else true

def errAuthenticationFailed : Int := -32015

def authenticationFailedResponse : Json :=
  .object [(ascii "jsonrpc", .string (ascii "2.0")),
    (ascii "error", .object [(ascii "code", .integer (.ofInt errAuthenticationFailed)),
      (ascii "message", .string (ascii "Authentication failed"))]),
    (ascii "id", .null)]

/-- The request of a message that comes to the request handler, or schedules a shutdown. -/
def passes (parse : Bytes → Option Json) (isText : Bool) (payload ip : Bytes) : Option Json :=
  if isText then
    match parse payload with
    | some request =>
        if isShutdown request then
          match requestId request with
          | .ok _ => if isLoopbackAddress ip then some request else none
          | .error _ => none
        else some request
    | none => none
  else none

end WebSocketServer

open WebSocketServer

namespace Connections
variable {Conn ω : Type} [DecidableEq Conn]

/-! ### Handlers -/

def setPhase (s : Connections Conn ω) (c : Conn) (phase : Phase) : Connections Conn ω :=
  { s with phase := Function.update s.phase c phase }

/-- A look into an info. -/
def use (s : Connections Conn ω) (info : ClientInfo) : Connections Conn ω :=
  { s with misused := s.misused || info.address ∈ s.freed }

/-- `delete`. -/
def release (s : Connections Conn ω) (info : ClientInfo) : Connections Conn ω :=
  { s.use info with freed := s.freed ++ [info.address] }

/-- The two calls in the `try` that refuses a connection: the second is made when the first has returned. -/
def refuse (s : Connections Conn ω) (c : Conn) : Sending → Sending → Connections Conn ω
  | .sent, closing =>
      let s := { s with server := { s.server with sent := s.server.sent ++ [authenticationFailedResponse] } }
      match closing with
      | .sent => s.setPhase c .closing
      | .failed => s.setPhase c .opened
  | .failed, _ => s.setPhase c .opened

/-- A new info in the map. -/
def welcome (s : Connections Conn ω) (c : Conn) (ip : Bytes) : Connections Conn ω :=
  { s.setPhase c .opened with
    clients := s.clients.insert c ⟨s.allocated.length, ip⟩
    allocated := s.allocated ++ [c]
    io := .notifying .clientConnected c ip }

/-- `WebSocketServer::OnOpen`, up to the notification. The handle may have no connection any more. -/
def onOpen (v : SocketService Conn ω) (s : Connections Conn ω) (c : Conn) (found : Bool) (sending closing : Sending) :
    Connections Conn ω :=
  let ip := getRemoteIP (if found then some (v.peers c).endpoint else none)
  let token := if found then extractTokenFromUri (v.peers c).uri else []
  if v.requireAuth && !authenticateClient v.requireAuth v.authTokens token then s.refuse c sending closing
  else s.welcome c ip

/-- `WebSocketServer::OnClose`, up to the notification. -/
def onClose (s : Connections Conn ω) (c : Conn) : Connections Conn ω :=
  let s := s.setPhase c .over
  match s.clients.lookup c with
  | some info =>
      { s.release info with clients := s.clients.erase c, io := .notifying .clientDisconnected c info.clientIP }
  | none => { s with io := .notifying .clientDisconnected c [] }

/-- `WebSocketServer::OnFail`. -/
def onFail (s : Connections Conn ω) (c : Conn) : Connections Conn ω :=
  let s := s.setPhase c .over
  match s.clients.lookup c with
  | some info => { s.release info with clients := s.clients.erase c }
  | none => s

def updateActivityTime (s : Connections Conn ω) (c : Conn) : Connections Conn ω :=
  match s.clients.lookup c with
  | some info => s.use info
  | none => s

/-- `WebSocketServer::OnMessage`. What leaves it ends the loop of the io thread. -/
def onMessage (v : SocketService Conn ω) (s : Connections Conn ω) (c : Conn) (found isText : Bool) (payload : Bytes)
    (sending closing : Sending) : Connections Conn ω :=
  let ip := getRemoteIP (if found then some (v.peers c).endpoint else none)
  let s := s.updateActivityTime c
  if isText then
    let s := { s with
      passed := s.passed ++ ((passes v.parse isText payload ip).map fun request => (c, request)).toList }
    match WebSocketServer.onMessage v.env v.parse isText payload ip sending s.server with
    | (.ok (), server) => { s with server }
    | (.error _, server) => { s with server, io := .ended }
  else
    match closing with
    | .sent => s.setPhase c .closing
    | .failed => s

/-- `WebSocketServer::BroadcastNotification`. A client whose `send` throws is dropped from the map, and nothing
else. -/
def broadcastNotification (s : Connections Conn ω) (throws : Conn → Bool) : Connections Conn ω :=
  { s with clients :=
    ⟨s.clients.entries.filter fun entry => !throws entry.1, s.clients.nodupKeys.sublist List.filter_sublist⟩ }

/-- `WebSocketServer::CloseAllConnections`. -/
def closeAllConnections (s : Connections Conn ω) (throws : Conn → Bool) : Connections Conn ω :=
  { s with
    phase := fun c => if c ∈ s.clients ∧ s.phase c = .opened ∧ throws c = false then .closing else s.phase c }

def releaseAll (s : Connections Conn ω) : List ClientInfo → Connections Conn ω
  | [] => s
  | info :: rest => releaseAll (s.release info) rest

/-- The end of `WebSocketServer::StopServer`, when the io thread has been joined. -/
def clearClients (s : Connections Conn ω) : Connections Conn ω :=
  { s.releaseAll (s.clients.entries.map Sigma.snd) with clients := ∅, stage := .stopped, io := .ended }

/-! ### Steps -/

/-- `notify` ends the handler of the io thread; `broadcast` comes from other threads. -/
inductive Event (Conn : Type) where
  | opened (connection : Conn) (found : Bool) (sending closing : Sending)
  | message (connection : Conn) (found isText : Bool) (payload : Bytes) (sending closing : Sending)
  | closed (connection : Conn)
  | failed (connection : Conn)
  | notify (throws : Conn → Bool)
  | broadcast (throws : Conn → Bool)
  | stop (throws : Conn → Bool)
  | joined

/-- The handlers run one after the other. The transport opens a connection once, delivers messages between that
and the close, and reports the end once. -/
def step (v : SocketService Conn ω) (s : Connections Conn ω) : Event Conn → Option (Connections Conn ω)
  | .opened c found sending closing =>
      if s.io = .idle ∧ s.phase c = .fresh then some (s.onOpen v c found sending closing) else none
  | .message c found isText payload sending closing =>
      if s.io = .idle ∧ s.phase c = .opened then some (s.onMessage v c found isText payload sending closing)
      else none
  | .closed c =>
      if s.io = .idle ∧ (s.phase c = .opened ∨ s.phase c = .closing) then some (s.onClose c) else none
  | .failed c => if s.io = .idle ∧ s.phase c ≠ .over then some (s.onFail c) else none
  | .notify throws =>
      match s.io with
      | .notifying event c _ =>
          some { s.broadcastNotification throws with notified := s.notified ++ [(event, c)], io := .idle }
      | _ => none
  | .broadcast throws => some (s.broadcastNotification throws)
  | .stop throws =>
      if s.stage = .online then some { s.closeAllConnections throws with stage := .stopping } else none
  | .joined =>
      if s.stage = .stopping ∧ (s.io = .idle ∨ s.io = .ended) then some s.clearClients else none

def Step (v : SocketService Conn ω) (s : Connections Conn ω) (e : Event Conn) (t : Connections Conn ω) : Prop :=
  s.step v e = some t

/-- The connection is refused: its token is not among those configured. -/
def Refuses (v : SocketService Conn ω) (c : Conn) (found : Bool) : Prop :=
  v.requireAuth = true ∧
    authenticateClient v.requireAuth v.authTokens (if found then extractTokenFromUri (v.peers c).uri else []) = false

/-- The steps with what they find. -/
inductive Move (v : SocketService Conn ω) (s : Connections Conn ω) : Event Conn → Connections Conn ω → Prop
  | refused (c : Conn) (found : Bool) (sending closing : Sending) : s.io = .idle → s.phase c = .fresh →
      Refuses v c found → Move v s (.opened c found sending closing) (s.refuse c sending closing)
  | welcomed (c : Conn) (found : Bool) (sending closing : Sending) (ip : Bytes) : s.io = .idle →
      s.phase c = .fresh → ¬ Refuses v c found → Move v s (.opened c found sending closing) (s.welcome c ip)
  | message (c : Conn) (found isText : Bool) (payload : Bytes) (sending closing : Sending) : s.io = .idle →
      s.phase c = .opened → Move v s (.message c found isText payload sending closing)
        (s.onMessage v c found isText payload sending closing)
  | closed (c : Conn) (info : ClientInfo) : s.io = .idle → s.phase c = .opened ∨ s.phase c = .closing →
      s.clients.lookup c = some info → Move v s (.closed c)
        { (s.setPhase c .over).release info with
          clients := s.clients.erase c, io := .notifying .clientDisconnected c info.clientIP }
  | closedUnknown (c : Conn) : s.io = .idle → s.phase c = .opened ∨ s.phase c = .closing →
      s.clients.lookup c = none → Move v s (.closed c)
        { s.setPhase c .over with io := .notifying .clientDisconnected c [] }
  | failed (c : Conn) (info : ClientInfo) : s.io = .idle → s.phase c ≠ .over →
      s.clients.lookup c = some info → Move v s (.failed c)
        { (s.setPhase c .over).release info with clients := s.clients.erase c }
  | failedUnknown (c : Conn) : s.io = .idle → s.phase c ≠ .over → s.clients.lookup c = none →
      Move v s (.failed c) (s.setPhase c .over)
  | notify (throws : Conn → Bool) (event : ClientEvent) (c : Conn) (ip : Bytes) :
      s.io = .notifying event c ip → Move v s (.notify throws)
        { s.broadcastNotification throws with notified := s.notified ++ [(event, c)], io := .idle }
  | broadcast (throws : Conn → Bool) : Move v s (.broadcast throws) (s.broadcastNotification throws)
  | stop (throws : Conn → Bool) : s.stage = .online →
      Move v s (.stop throws) { s.closeAllConnections throws with stage := .stopping }
  | joined : s.stage = .stopping → s.io = .idle ∨ s.io = .ended → Move v s .joined s.clearClients

variable {v : SocketService Conn ω} {s t : Connections Conn ω} {e : Event Conn}

theorem move_onOpen {c : Conn} {found : Bool} {sending closing : Sending} (idle : s.io = .idle)
    (fresh : s.phase c = .fresh) :
    Move v s (.opened c found sending closing) (s.onOpen v c found sending closing) := by
  have asked : (v.requireAuth && !authenticateClient v.requireAuth v.authTokens
      (if found then extractTokenFromUri (v.peers c).uri else [])) = true ↔ Refuses v c found := by
    rw [Bool.and_eq_true, Bool.not_eq_true', Refuses]
  by_cases refused : Refuses v c found
  · simp only [onOpen, if_pos (asked.mpr refused)]
    exact .refused c found sending closing idle fresh refused
  · simp only [onOpen, if_neg (mt asked.mp refused)]
    exact .welcomed c found sending closing _ idle fresh refused

theorem move_onClose {c : Conn} (idle : s.io = .idle) (live : s.phase c = .opened ∨ s.phase c = .closing) :
    Move v s (.closed c) (s.onClose c) := by
  unfold onClose
  dsimp only
  split
  · next info known => exact .closed c info idle live known
  · next unknown => exact .closedUnknown c idle live unknown

theorem move_onFail {c : Conn} (idle : s.io = .idle) (live : s.phase c ≠ .over) :
    Move v s (.failed c) (s.onFail c) := by
  unfold onFail
  dsimp only
  split
  · next info known => exact .failed c info idle live known
  · next unknown => exact .failedUnknown c idle live unknown

theorem Step.move (step : Step v s e t) : Move v s e t := by
  rw [Step] at step
  cases e with
  | opened c found sending closing =>
      obtain ⟨⟨idle, fresh⟩, same⟩ := Option.ite_none_right_eq_some.mp step
      cases same
      exact move_onOpen idle fresh
  | message c found isText payload sending closing =>
      obtain ⟨⟨idle, opened⟩, same⟩ := Option.ite_none_right_eq_some.mp step
      cases same
      exact .message c found isText payload sending closing idle opened
  | closed c =>
      obtain ⟨⟨idle, live⟩, same⟩ := Option.ite_none_right_eq_some.mp step
      cases same
      exact move_onClose idle live
  | failed c =>
      obtain ⟨⟨idle, live⟩, same⟩ := Option.ite_none_right_eq_some.mp step
      cases same
      exact move_onFail idle live
  | notify throws =>
      rw [Connections.step] at step
      split at step
      · next event c ip io =>
          cases step
          exact .notify throws event c ip io
      · cases step
  | broadcast throws =>
      cases step
      exact .broadcast throws
  | stop throws =>
      obtain ⟨online, same⟩ := Option.ite_none_right_eq_some.mp step
      cases same
      exact .stop throws online
  | joined =>
      obtain ⟨⟨stopping, left⟩, same⟩ := Option.ite_none_right_eq_some.mp step
      cases same
      exact .joined stopping left

/-- As `StartServer` leaves the server. -/
structure Started (s : Connections Conn ω) : Prop where
  clients : s.clients = ∅
  phase : ∀ c, s.phase c = .fresh
  io : s.io = .idle
  stage : s.stage = .online
  allocated : s.allocated = []
  freed : s.freed = []
  misused : s.misused = false
  notified : s.notified = []
  passed : s.passed = []

end Connections
end SyncRGB
