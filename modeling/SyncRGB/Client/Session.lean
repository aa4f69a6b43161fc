import SyncRGB.Client.NetworkClient
import SyncRGB.Transition.Run

/-! A client, the server it talks to, and the packets in flight between them. Every thread takes one
step at a time, and the steps of different threads interleave freely. -/
namespace SyncRGB

/-- `todo` is what the running listener has left of the handler it is in, and `ending` the same for
listeners of earlier connections that have not returned. `clientProtocolVersion` is the version the
server holds for this client, `serverVersion` and `devices` its own version and number of devices. -/
structure Session where
  client : NetworkClient
  listening : Bool
  todo : List Statement
  ending : List (List Statement)
  link : Bool
  requests : List Request
  replies : List Reply
  serverVersion : Nat
  clientProtocolVersion : Nat
  devices : Nat
deriving DecidableEq, Repr

/-- The server's version for a client after a packet: `ProcessRequest_ClientProtocolVersion`. -/
def Request.versionAfter (serverVersion current : Nat) : Request → Nat
  | .protocolVersion version => min version serverVersion
  | _ => current

/-- What `ListenThreadFunction` makes of the packet, in a server of this repository's version. -/
theorem processClientProtocolVersion_eq (s : NetworkServer) {p : NetPacket} {version : UInt32}
    (holds : p.data = ByteCodec.u32 version) :
    s.processClientProtocolVersion p = .done { s with
      clientProtocolVersion := (Request.protocolVersion version.toNat).versionAfter
        sdkProtocolVersion s.clientProtocolVersion } := by
  have size : p.pktSize = 4 := by simp [NetPacket.pktSize, holds]
  have read := ByteCodec.Reader.Reads.u32 version [] [] (by simp)
  simp only [List.nil_append, List.append_nil, List.length_nil] at read
  rw [NetworkServer.processClientProtocolVersion, if_pos size, holds, read]
  rfl

/-- The server's answer. A server without versions does not know the version request and encodes
controller data as version 0; any other encodes at most its own version. -/
def Request.reply (serverVersion devices : Nat) : Request → Option Reply
  | .protocolVersion _ => if serverVersion = 0 then none else some (.protocolVersion serverVersion)
  | .controllerCount => some (.controllerCount devices)
  | .controllerData devIdx version =>
      if devIdx < devices then some (.controllerData devIdx (min version serverVersion)) else none
  | _ => none

/-- The steps of a session: the connection thread's own, the outcomes of its connection attempt and
the timeout of its version wait; the listener's; what happens to the link; the server's; and the
two parts of a mirror's method (`ClearSegments`, `AddSegment`, `ResizeZone` and `SetCustomMode` ask
for the controller's data after their packet), called by anyone who holds the master list. -/
inductive Action
  | connection
  | connect (serverVersion devices : Nat)
  | connectFailed
  | timeout
  | receive
  | statement
  | endingStatement
  | hangup
  | linkDown
  | serve
  | deviceListChanged (devices : Nat)
  | call (position : Nat) (method : Method)
  | refresh (position : Nat)
deriving DecidableEq, Repr

namespace Session

def callRequest (s : Session) (m : Mirror) (method : Method) : Request :=
  .rgbController method m.devIdx s.client.getProtocolVersion

/-- Before `StartClient`. -/
def initial (client : NetworkClient) : Session :=
  { client, listening := false, todo := [], ending := [], link := false, requests := [],
    replies := [], serverVersion := 0, clientProtocolVersion := 0, devices := 0 }

/-- A packet reaches the connection only while there is one. -/
def send (s : Session) (request : Request) : Session :=
  if s.link then { s with requests := s.requests ++ [request] } else s

def proceed (s : Session) (client : NetworkClient) : Option Request → Session
  | none => { s with client := client }
  | some request => { s with client := client }.send request

def connection (s : Session) : Option Session :=
  s.client.connectionStep.map fun next => s.proceed next.1 next.2

/-- The thread object of an earlier listener is dropped without waiting for it. -/
def connect (s : Session) (serverVersion devices : Nat) : Option Session :=
  if s.client.pc = .connecting then
    some {
      client := { s.client with serverConnected := true, pc := .started }
      listening := true
      todo := []
      ending := if s.todo = [] then s.ending else s.ending ++ [s.todo]
      link := true
      requests := []
      replies := []
      serverVersion := serverVersion
      clientProtocolVersion := 0
      devices := devices }
  else none

def connectFailed (s : Session) : Option Session :=
  if s.client.pc = .connecting then some { s with client := { s.client with pc := .check } }
  else none

def timeout (s : Session) : Option Session :=
  if s.client.pc = .versionWait then
    some { s with client := { s.client with serverProtocolVersion := 0, pc := .versionTimedOut } }
  else none

def receive (s : Session) : Option Session :=
  match s.replies with
  | reply :: replies =>
      if s.listening ∧ s.todo = [] then
        some { s with todo := reply.handler, replies := replies }
      else none
  | [] => none

def statement (s : Session) : Option Session :=
  match s.todo with
  | x :: rest => some { s with client := s.client.run x, todo := rest }
  | [] => none

def endingStatement (s : Session) : Option Session :=
  match s.ending with
  | (x :: rest) :: others => some { s with client := s.client.run x, ending := rest :: others }
  | [] :: others => some { s with ending := others }
  | [] => none

def hangup (s : Session) : Option Session :=
  if s.listening ∧ s.todo = [] ∧ s.link = false then
    some { s with listening := false, todo := listenDone, replies := [] }
  else none

def linkDown (s : Session) : Option Session := some { s with link := false, requests := [] }

def serve (s : Session) : Option Session :=
  match s.requests with
  | request :: requests =>
      some { s with
        requests := requests
        clientProtocolVersion := request.versionAfter s.serverVersion s.clientProtocolVersion
        replies := s.replies ++ (request.reply s.serverVersion s.devices).toList }
  | [] => none

def deviceListChanged (s : Session) (devices : Nat) : Option Session :=
  if s.link then some { s with devices := devices, replies := s.replies ++ [.deviceListUpdated] }
  else none

def call (s : Session) (position : Nat) (method : Method) : Option Session :=
  s.client.controllers[position]?.map fun m =>
    if s.client.changeInProgress then s
    else s.send (s.callRequest m method)

def refresh (s : Session) (position : Nat) : Option Session :=
  s.client.controllers[position]?.map fun m =>
    let sent := s.client.sendRequestControllerData m.devIdx
    { s with client := sent.1 }.send sent.2

def step (s : Session) : Action → Option Session
  | .connection => s.connection
  | .connect serverVersion devices => s.connect serverVersion devices
  | .connectFailed => s.connectFailed
  | .timeout => s.timeout
  | .receive => s.receive
  | .statement => s.statement
  | .endingStatement => s.endingStatement
  | .hangup => s.hangup
  | .linkDown => s.linkDown
  | .serve => s.serve
  | .deviceListChanged devices => s.deviceListChanged devices
  | .call position method => s.call position method
  | .refresh position => s.refresh position

def nextStatement (s : Session) : Action → Option Statement
  | .statement => s.todo.head?
  | .endingStatement => s.ending.head?.bind List.head?
  | _ => none

def Step (s : Session) (a : Action) (t : Session) : Prop := s.step a = some t

@[simp] theorem send_client (s : Session) (q : Request) : (s.send q).client = s.client := by
  unfold send
  split <;> rfl

@[simp] theorem proceed_client (s : Session) (c : NetworkClient) (q : Option Request) :
    (s.proceed c q).client = c := by
  cases q
  · rfl
  · exact send_client _ _

@[simp] theorem send_listening (s : Session) (q : Request) : (s.send q).listening = s.listening := by
  unfold send
  split <;> rfl

@[simp] theorem send_link (s : Session) (q : Request) : (s.send q).link = s.link := by
  unfold send
  split <;> rfl

@[simp] theorem send_serverVersion (s : Session) (q : Request) :
    (s.send q).serverVersion = s.serverVersion := by
  unfold send
  split <;> rfl

theorem send_with (s : Session) (c : NetworkClient) (q : Request) :
    send { s with client := c } q = { s.send q with client := c } := by
  unfold send
  dsimp only
  split <;> rfl

@[simp] theorem send_todo (s : Session) (q : Request) : (s.send q).todo = s.todo := by
  unfold send
  split <;> rfl

@[simp] theorem send_ending (s : Session) (q : Request) : (s.send q).ending = s.ending := by
  unfold send
  split <;> rfl

/-- The session after these steps, if each can be taken and meets the condition. -/
def exec (guard : Session → Action → Prop) [∀ s a, Decidable (guard s a)] :
    List Action → Session → Option Session
  | [], s => some s
  | a :: as, s => if guard s a then (s.step a).bind (exec guard as) else none

theorem run_of_exec {guard : Session → Action → Prop} [∀ s a, Decidable (guard s a)]
    {as : List Action} {s t : Session} (executed : exec guard as s = some t) :
    Transition.Run (Transition.Guarded guard Step) s as t := by
  induction as generalizing s with
  | nil => cases executed; exact .nil _
  | cons a as ih =>
      rw [exec] at executed
      split at executed
      case isTrue meets =>
        obtain ⟨u, taken, rest⟩ := Option.bind_eq_some_iff.mp executed
        exact .cons ⟨meets, taken⟩ (ih rest)
      case isFalse => cases executed

def Free (_ : Session) (_ : Action) : Prop := True

instance (s : Session) (a : Action) : Decidable (s.Free a) := inferInstanceAs (Decidable True)

theorem run_of_free {as : List Action} {s t : Session} (executed : exec Free as s = some t) :
    Transition.Run Step s as t :=
  (run_of_exec executed).mono fun _ _ _ taken => taken.2

def connectionSteps (n : Nat) : List Action := List.replicate n .connection

/-- The listener takes a reply and runs its handler without a pause. -/
def handling (statements : Nat) : List Action := .receive :: List.replicate statements .statement

/-- A client connects to a server and learns its version, then asks for the number of devices. -/
def startup (serverVersion devices : Nat) : List Action :=
  [.connection, .connect serverVersion devices] ++ connectionSteps 3 ++ [.serve] ++ handling 2 ++
    connectionSteps 8 ++ [.serve, .serve] ++ handling 4

end Session
end SyncRGB
