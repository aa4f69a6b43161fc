import SyncRGB.Controller.Updates

/-! The packets a server receives and the `switch` of
`NetworkServer::ListenThreadFunction` that performs them, with the functions of
drivers that it calls. Replies are left out: they change nothing the server keeps. -/
namespace SyncRGB
open ByteCodec Reader

/-- A received packet. Its data pointer is NULL when there are no data bytes. -/
structure NetPacket where
  pktDevIdx : UInt32
  pktId : UInt32
  data : Bytes
  sized : data.length < 2 ^ 32

def NetPacket.pktSize (p : NetPacket) : UInt32 := UInt32.ofNat p.data.length

inductive PacketId
  | requestControllerCount
  | requestControllerData
  | requestProtocolVersion
  | setClientName
  | deviceListUpdated
  | requestRescanDevices
  | requestProfileList
  | requestSaveProfile
  | requestLoadProfile
  | requestDeleteProfile
  | requestPluginList
  | pluginSpecific
  | resizeZone
  | clearSegments
  | addSegment
  | updateLeds
  | updateZoneLeds
  | updateSingleLed
  | setCustomMode
  | updateMode
  | saveMode
  deriving DecidableEq, Repr

/-- The `NET_PACKET_ID` enumeration. -/
def PacketId.ofCode : Nat → Option PacketId
  | 0 => some requestControllerCount
  | 1 => some requestControllerData
  | 40 => some requestProtocolVersion
  | 50 => some setClientName
  | 100 => some deviceListUpdated
  | 140 => some requestRescanDevices
  | 150 => some requestProfileList
  | 151 => some requestSaveProfile
  | 152 => some requestLoadProfile
  | 153 => some requestDeleteProfile
  | 200 => some requestPluginList
  | 201 => some pluginSpecific
  | 1000 => some resizeZone
  | 1001 => some clearSegments
  | 1002 => some addSegment
  | 1050 => some updateLeds
  | 1051 => some updateZoneLeds
  | 1052 => some updateSingleLed
  | 1100 => some setCustomMode
  | 1101 => some updateMode
  | 1102 => some saveMode
  | _ => none

def NetPacket.kind (p : NetPacket) : Option PacketId := PacketId.ofCode p.pktId.toNat

/-- `OPENRGB_SDK_PROTOCOL_VERSION`. -/
def sdkProtocolVersion : Nat := 5

structure NetworkServer where
  controllers : List RGBController
  legacyWorkaroundEnabled : Bool
  clientProtocolVersion : Nat

/-- The virtual functions and managers that a packet can call. -/
structure Services where
  resizeZone : RGBController → Int32 → Int32 → RGBController
  rescanDevices : List RGBController → List RGBController
  loadProfile : Bytes → List RGBController → List RGBController

/-- Services that leave the controllers alone. -/
def idleServices : Services := ⟨fun c _ _ => c, id, fun _ cs => cs⟩

/-- How the handling of a packet ends: the listener goes on or closes, bytes outside the
packet data were read, or a slot outside a controller's vectors was touched. -/
inductive Outcome
  | done (s : NetworkServer)
  | closed (s : NetworkServer)
  | badRead
  | badTarget

namespace NetworkServer

def onController (s : NetworkServer) (p : NetPacket)
    (set : RGBController → Reader (Option RGBController)) : Outcome :=
  match s.controllers[p.pktDevIdx.toNat]? with
  | none => .done s
  | some c =>
      match (set c).exec p.data 0 with
      | none => .badRead
      | some (none, _) => .badTarget
      | some (some c', _) =>
          .done { s with controllers := s.controllers.set p.pktDevIdx.toNat c' }

/-- `*((unsigned int*)data)`. -/
def embeddedSize (p : NetPacket) : Option UInt32 := (u32.exec p.data 0).map Prod.fst

/-- Old clients are let through with a wrong size when the legacy workaround is on. -/
def legacyClient (s : NetworkServer) : Bool :=
  s.clientProtocolVersion ≤ 4 && s.legacyWorkaroundEnabled

/-- A description starts with its own size, which has to be the packet size. -/
def sized (s : NetworkServer) (p : NetPacket) (accepted : Bool) (mismatch : Outcome)
    (set : RGBController → Reader (Option RGBController)) : Outcome :=
  match embeddedSize p with
  | none => .badRead
  | some size => if p.pktSize == size || accepted then s.onController p set else mismatch

/-- The color and mode packets test the data pointer first. -/
def described (s : NetworkServer) (p : NetPacket) (mismatch : Outcome)
    (set : RGBController → Reader (Option RGBController)) : Outcome :=
  if p.data = [] then .done s else s.sized p s.legacyClient mismatch set

/-- `NetworkServer::ProcessRequest_ClientProtocolVersion`. -/
def processClientProtocolVersion (s : NetworkServer) (p : NetPacket) : Outcome :=
  if p.pktSize = 4 then
    match u32.exec p.data 0 with
    | none => .badRead
    | some (version, _) =>
        .done { s with clientProtocolVersion := min version.toNat sdkProtocolVersion }
  else .done { s with clientProtocolVersion := 0 }

/-- The requested version is copied out only when the data has its size. -/
def controllerData (s : NetworkServer) (p : NetPacket) : Outcome :=
  if p.pktSize = 4 ∧ u32.exec p.data 0 = none then .badRead else .done s

def loadProfile (services : Services) (s : NetworkServer) (p : NetPacket) : Outcome :=
  if p.data = [] then .done s
  else .done { s with controllers := services.loadProfile p.data s.controllers }

/-- The plugin packet type is read without a test of the data pointer. -/
def pluginSpecific (s : NetworkServer) (p : NetPacket) : Outcome :=
  match embeddedSize p with
  | none => .badRead
  | some _ => .done s

/-- The LED index is copied out once for the device and once by the decoder. -/
def updateSingleLed (s : NetworkServer) (p : NetPacket) : Outcome :=
  if p.data = [] then .done s
  else if p.pktSize = 8 then
    s.onController p fun c => do
      let _led ← peek i32
      c.setSingleLEDColorDescription
  else .closed s

/-- `CLEARSEGMENTS` and `RESIZEZONE` take fixed-size data and are ignored at any other size. -/
def fixedSize (s : NetworkServer) (p : NetPacket) (size : UInt32)
    (set : RGBController → Reader (Option RGBController)) : Outcome :=
  if p.data = [] then .done s
  else if p.pktSize = size then s.onController p set
  else .done s

/-- The `switch` on the packet id, up to the calls of drivers. -/
def dispatch (services : Services) (s : NetworkServer) (p : NetPacket) : Outcome :=
  match p.kind with
  | some .requestControllerData => s.controllerData p
  | some .requestProtocolVersion => s.processClientProtocolVersion p
  | some .requestRescanDevices =>
      .done { s with controllers := services.rescanDevices s.controllers }
  | some .requestLoadProfile => s.loadProfile services p
  | some .pluginSpecific => s.pluginSpecific p
  | some .resizeZone =>
      s.fixedSize p 8 fun c => do
        let zone ← i32
        let newSize ← i32
        return some (services.resizeZone c zone newSize)
  | some .clearSegments => s.fixedSize p 4 fun c => do
      let zone ← i32
      return c.clearSegments zone
  | some .addSegment => s.sized p false (.done s) RGBController.setSegmentDescription
  | some .updateLeds => s.described p (.closed s) RGBController.setColorDescription
  | some .updateZoneLeds =>
      s.described p (.closed s) fun c => do
        let _zone ← peek (do skip 4; i32)
        c.setZoneColorDescription
  | some .updateSingleLed => s.updateSingleLed p
  | some .setCustomMode => s.onController p fun c => return some c.setCustomMode
  | some .updateMode =>
      s.described p (.closed s) (RGBController.setModeDescription s.clientProtocolVersion)
  | some .saveMode =>
      s.described p (.done s) (RGBController.setModeDescription s.clientProtocolVersion)
  | _ => .done s

/-- The description in the packet passes the test of its size. -/
def accepts (s : NetworkServer) (p : NetPacket) : Bool :=
  match embeddedSize p with
  | none => false
  | some size => p.data ≠ [] && (p.pktSize == size || s.legacyClient)

end NetworkServer

/-- The functions of a driver that the listener calls itself. The updates of all LEDs and of the mode only set a flag
for the thread of the device. -/
inductive DriverCall
  | updateZoneLEDs (zone : Int32)
  | updateSingleLED (led : Int32)
  | deviceSaveMode
  deriving DecidableEq

/-- The slot that the argument names, or the active mode, is there. -/
def DriverCall.Inside (c : RGBController) : DriverCall → Prop
  | updateZoneLEDs zone => sizeT zone < c.zones.length
  | updateSingleLED led => sizeT led < c.leds.length
  | deviceSaveMode => sizeT c.activeMode < c.modes.length

instance (c : RGBController) (call : DriverCall) : Decidable (call.Inside c) := by
  cases call <;> exact Nat.decLt _ _

/-- Which of these functions of a driver index the zones, LEDs or modes with it. -/
structure Drivers where
  indexes : RGBController → DriverCall → Bool

namespace NetworkServer

/-- The call behind the description. It is made with the index of the packet also where the description was refused. -/
def driverCall (s : NetworkServer) (p : NetPacket) : Option DriverCall :=
  match p.kind with
  | some .updateZoneLeds =>
      if s.accepts p then ((do skip 4; i32 : Reader Int32).exec p.data 0).map fun read => .updateZoneLEDs read.1
      else none
  | some .updateSingleLed =>
      if p.pktSize = 8 then (i32.exec p.data 0).map fun read => .updateSingleLED read.1 else none
  | some .saveMode => if s.accepts p then some .deviceSaveMode else none
  | _ => none

/-- The `switch` with the calls of drivers. -/
def handle (services : Services) (drivers : Drivers) (s : NetworkServer) (p : NetPacket) : Outcome :=
  match s.dispatch services p with
  | .done s' =>
      match s.driverCall p, s.controllers[p.pktDevIdx.toNat]?, s'.controllers[p.pktDevIdx.toNat]? with
      | some call, some c, some c' => if drivers.indexes c call ∧ ¬ call.Inside c' then .badTarget else .done s'
      | _, _, _ => .done s'
  | other => other

end NetworkServer
end SyncRGB
