import SyncRGB.Server.Dispatch

/-! `NetworkClient` and `RGBController_Network`: what the client holds, the assignments of its
listener's handlers, and the steps of its connection thread. -/
namespace SyncRGB

/-- A `RGBController_Network`: its device index, a number that tells it from every other object,
and how many list notifications had been handled when it was created. -/
structure Mirror where
  devIdx : Nat
  serial : Nat
  since : Nat
deriving DecidableEq, Repr

inductive Method
  | clearSegments | addSegment | resizeZone | deviceUpdateLEDs | updateZoneLEDs | updateSingleLED
  | setCustomMode | deviceUpdateMode | deviceSaveMode
deriving DecidableEq, Repr

/-- The methods whose packet holds a mode description, which depends on the version. -/
def Method.sendsMode : Method → Bool
  | .deviceUpdateMode | .deviceSaveMode => true
  | _ => false

inductive Request
  | protocolVersion (version : Nat)
  | clientString
  | controllerCount
  | controllerData (devIdx version : Nat)
  | rgbController (method : Method) (devIdx version : Nat)
deriving DecidableEq, Repr

def Request.devIdx : Request → Nat
  | .controllerData devIdx _ | .rgbController _ devIdx _ => devIdx
  | _ => 0

/-- The packets of the server; controller data is encoded for a version. -/
inductive Reply
  | controllerCount (count : Nat)
  | controllerData (devIdx version : Nat)
  | protocolVersion (version : Nat)
  | deviceListUpdated
deriving DecidableEq, Repr

inductive ConnectionPc
  | top | connecting | started | check
  | versionRequest | versionLoop | versionWait | versionTimedOut | versionDone
  | stringTest | stringSent
  | listTest | countTest | countSent | countReceivedTest | dataTest
  | dataRequestTest | dataSend | dataSent | dataReceivedTest | advance | advanced
  | publish | published | shortWait | longWait
deriving DecidableEq, Repr

/-- `controllers` is the part of the master list that this client owns. The last fields count what
the statements about the client refer to: the mirrors created, the list notifications handled, and
whether a count has been asked for since the last of them. -/
structure NetworkClient where
  clientStringSent : Bool
  controllerDataReceived : Bool
  controllerDataRequested : Bool
  protocolInitialized : Bool
  serverConnected : Bool
  serverInitialized : Bool
  serverControllerCount : Nat
  serverControllerCountRequested : Bool
  serverControllerCountReceived : Bool
  serverProtocolVersion : Nat
  serverProtocolVersionReceived : Bool
  changeInProgress : Bool
  requestedControllers : Nat
  serverControllers : List Mirror
  controllers : List Mirror
  pc : ConnectionPc
  created : Nat
  handled : Nat
  countAsked : Bool
deriving DecidableEq, Repr

inductive Statement
  | setClientStringSent (b : Bool)
  | setDataReceived (b : Bool)
  | setDataRequested (b : Bool)
  | setProtocolInitialized (b : Bool)
  | setConnected (b : Bool)
  | setInitialized (b : Bool)
  | setCount (n : Nat)
  | setCountRequested (b : Bool)
  | setCountReceived (b : Bool)
  | setVersion (n : Nat)
  | setVersionReceived (b : Bool)
  | setChangeInProgress (b : Bool)
  | setRequested (n : Nat)
  | decode (version : Nat)
  | store (devIdx : Nat)
  | clearLists
  | notificationHandled
deriving DecidableEq, Repr

namespace NetworkClient

/-- The constructor, which leaves five fields without a value. -/
def constructed (dataReceived dataRequested initialized versionReceived : Bool)
    (requested : Nat) : NetworkClient where
  clientStringSent := false
  controllerDataReceived := dataReceived
  controllerDataRequested := dataRequested
  protocolInitialized := false
  serverConnected := false
  serverInitialized := initialized
  serverControllerCount := 0
  serverControllerCountRequested := false
  serverControllerCountReceived := false
  serverProtocolVersion := 0
  serverProtocolVersionReceived := versionReceived
  changeInProgress := false
  requestedControllers := requested
  serverControllers := []
  controllers := []
  pc := .top
  created := 0
  handled := 0
  countAsked := false

/-- `NetworkClient::GetProtocolVersion`. -/
def getProtocolVersion (c : NetworkClient) : Nat :=
  if c.serverProtocolVersion > sdkProtocolVersion then sdkProtocolVersion
  else c.serverProtocolVersion

/-- A decoded description becomes a new mirror at the end of the list when its index is not in
the list; otherwise its contents go into the mirror that is there. -/
def store (c : NetworkClient) (devIdx : Nat) : NetworkClient :=
  if devIdx ≥ c.serverControllers.length then
    { c with
      serverControllers := c.serverControllers ++ [⟨devIdx, c.created, c.handled⟩]
      created := c.created + 1 }
  else c

theorem store_eq (c : NetworkClient) (devIdx : Nat) : c.store devIdx = { c with
    serverControllers := (c.store devIdx).serverControllers
    created := (c.store devIdx).created } := by
  unfold store
  split <;> rfl

/-- Each mirror is erased from the master list once, then the mirrors are dropped. -/
def clearLists (c : NetworkClient) : NetworkClient :=
  { c with controllers := c.controllers.diff c.serverControllers, serverControllers := [] }

def run (c : NetworkClient) : Statement → NetworkClient
  | .setClientStringSent b => { c with clientStringSent := b }
  | .setDataReceived b => { c with controllerDataReceived := b }
  | .setDataRequested b => { c with controllerDataRequested := b }
  | .setProtocolInitialized b => { c with protocolInitialized := b }
  | .setConnected b => { c with serverConnected := b }
  | .setInitialized b => { c with serverInitialized := b }
  | .setCount n => { c with serverControllerCount := n }
  | .setCountRequested b => { c with serverControllerCountRequested := b }
  | .setCountReceived b => { c with serverControllerCountReceived := b }
  | .setVersion n => { c with serverProtocolVersion := n }
  | .setVersionReceived b => { c with serverProtocolVersionReceived := b }
  | .setChangeInProgress b => { c with changeInProgress := b }
  | .setRequested n => { c with requestedControllers := n }
  | .decode _ => c
  | .store devIdx => c.store devIdx
  | .clearLists => c.clearLists
  | .notificationHandled => { c with handled := c.handled + 1, countAsked := false }

/-- What a statement of the listener can change of the fields that the invariant looks at. -/
structure Ran (c : NetworkClient) (x : Statement) (d : NetworkClient) : Prop where
  pc : d.pc = c.pc
  version : d.serverProtocolVersion = c.serverProtocolVersion ∨
    x = .setVersion d.serverProtocolVersion
  received : d.serverProtocolVersionReceived = c.serverProtocolVersionReceived ∨
    x = .setVersionReceived d.serverProtocolVersionReceived
  countReceived : d.serverControllerCountReceived = c.serverControllerCountReceived ∨
    x = .setCountReceived d.serverControllerCountReceived
  ready : d.serverInitialized = c.serverInitialized ∨ x = .setInitialized d.serverInitialized
  initialized : d.protocolInitialized = c.protocolInitialized ∨
    x = .setProtocolInitialized d.protocolInitialized
  connected : d.serverConnected = c.serverConnected ∨ x = .setConnected d.serverConnected
  lists : d.controllers = c.controllers ∧ c.serverControllers <+: d.serverControllers ∨
    x = .clearLists ∧ d.controllers = c.controllers.diff c.serverControllers ∧
      d.serverControllers = []
  mirrors : d.serverControllers = c.serverControllers ∨ x = .clearLists ∨ ∃ i, x = .store i

theorem run_ran (c : NetworkClient) (x : Statement) : Ran c x (c.run x) := by
  cases x with
  | store i =>
      have grown : c.serverControllers <+: (c.store i).serverControllers := by
        unfold store
        split
        · exact List.prefix_append _ _
        · exact List.prefix_rfl
      rw [run, store_eq]
      exact ⟨rfl, .inl rfl, .inl rfl, .inl rfl, .inl rfl, .inl rfl, .inl rfl, .inl ⟨rfl, grown⟩,
        .inr (.inr ⟨i, rfl⟩)⟩
  | clearLists =>
      exact ⟨rfl, .inl rfl, .inl rfl, .inl rfl, .inl rfl, .inl rfl, .inl rfl, .inr ⟨rfl, rfl, rfl⟩,
        .inr (.inl rfl)⟩
  | _ => constructor <;> simp [run]

theorem diff_published {controllers mirrors : List Mirror} (published : controllers <+: mirrors) :
    controllers.diff mirrors = [] := by
  obtain ⟨more, rfl⟩ := published
  induction controllers with
  | nil => exact List.nil_diff _
  | cons m rest ih => simpa using ih

/-- `NetworkClient::SendRequest_ControllerData`. -/
def sendRequestControllerData (c : NetworkClient) (devIdx : Nat) : NetworkClient × Request :=
  ({ c with controllerDataReceived := false }, .controllerData devIdx c.getProtocolVersion)

/-- A step of `ConnectionThreadFunction` and the packet it sends. At `connecting` the outcome is
that of `tcp_client_connect`, a step of its own. -/
def connectionStep (c : NetworkClient) : Option (NetworkClient × Option Request) :=
  match c.pc with
  | .top =>
      if c.serverConnected then some ({ c with pc := .check }, none)
      else some ({ c with serverInitialized := false, pc := .connecting }, none)
  | .connecting => none
  | .started => some ({ c with serverInitialized := false, pc := .check }, none)
  | .check =>
      if (!c.protocolInitialized || !c.clientStringSent || !c.serverInitialized)
          && c.serverConnected then
        some ({ c with pc := if c.protocolInitialized then .stringTest else .versionRequest }, none)
      else some ({ c with pc := .longWait }, none)
  | .versionRequest =>
      some ({ c with pc := .versionLoop }, some (.protocolVersion sdkProtocolVersion))
  | .versionLoop =>
      some ({ c with
        pc := if c.serverProtocolVersionReceived then .versionDone else .versionWait }, none)
  | .versionWait => some ({ c with pc := .versionLoop }, none)
  | .versionTimedOut =>
      some ({ c with serverProtocolVersionReceived := true, pc := .versionLoop }, none)
  | .versionDone => some ({ c with protocolInitialized := true, pc := .stringTest }, none)
  | .stringTest =>
      if c.clientStringSent then some ({ c with pc := .listTest }, none)
      else some ({ c with pc := .stringSent }, some .clientString)
  | .stringSent => some ({ c with clientStringSent := true, pc := .listTest }, none)
  | .listTest =>
      some ({ c with pc := if c.serverInitialized then .shortWait else .countTest }, none)
  | .countTest =>
      if c.serverControllerCountRequested then some ({ c with pc := .countReceivedTest }, none)
      else some ({ c with countAsked := true, pc := .countSent }, some .controllerCount)
  | .countSent => some ({ c with serverControllerCountRequested := true, pc := .shortWait }, none)
  | .countReceivedTest =>
      some ({ c with
        pc := if c.serverControllerCountReceived then .dataTest else .shortWait }, none)
  | .dataTest =>
      some ({ c with
        pc := if c.requestedControllers < c.serverControllerCount then .dataRequestTest
              else .publish }, none)
  | .dataRequestTest =>
      if c.controllerDataRequested then some ({ c with pc := .dataReceivedTest }, none)
      else some ({ c with controllerDataReceived := false, pc := .dataSend }, none)
  | .dataSend =>
      let sent := c.sendRequestControllerData c.requestedControllers
      some ({ sent.1 with pc := .dataSent }, some sent.2)
  | .dataSent => some ({ c with controllerDataRequested := true, pc := .dataReceivedTest }, none)
  | .dataReceivedTest =>
      some ({ c with pc := if c.controllerDataReceived then .advance else .shortWait }, none)
  | .advance =>
      some ({ c with requestedControllers := c.requestedControllers + 1, pc := .advanced }, none)
  | .advanced => some ({ c with controllerDataRequested := false, pc := .shortWait }, none)
  | .publish =>
      some ({ c with controllers := c.controllers ++ c.serverControllers, pc := .published }, none)
  | .published => some ({ c with serverInitialized := true, pc := .shortWait }, none)
  | .shortWait => some ({ c with pc := .top }, none)
  | .longWait => some ({ c with pc := .top }, none)

end NetworkClient

def Reply.handler : Reply → List Statement
  | .controllerCount count =>
      [.setCount count, .setCountReceived true, .setRequested 0, .setDataRequested false]
  | .controllerData devIdx version => [.decode version, .store devIdx, .setDataReceived true]
  | .protocolVersion version => [.setVersion version, .setVersionReceived true]
  | .deviceListUpdated =>
      [.setChangeInProgress true, .clearLists, .setDataRequested false, .setDataReceived false,
        .setRequested 0, .setCount 0, .setCountRequested false, .setCountReceived false,
        .setInitialized false, .setChangeInProgress false, .notificationHandled]

/-- What the listener does at `listen_done`. -/
def listenDone : List Statement :=
  [.setClientStringSent false, .setDataRequested false, .setDataReceived false,
    .setProtocolInitialized false, .setRequested 0, .setCount 0, .setCountRequested false,
    .setCountReceived false, .setInitialized false, .setConnected false, .clearLists]

end SyncRGB
