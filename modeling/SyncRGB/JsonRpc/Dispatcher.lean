import SyncRGB.Effect.Results
import SyncRGB.JsonRpc.ControlMethods
import SyncRGB.JsonRpc.Dump
import SyncRGB.JsonRpc.Profiles

/-! The method dispatcher of the JSON-RPC handler, and the methods that reach beyond the controllers. -/
namespace SyncRGB
open ByteCodec Effect

namespace JsonRpc

def methodNotFound : Int := -32601
def errProfileSaveFailed : Int := -32006
def errPluginNotFound : Int := -32010
def errOperationNotPermitted : Int := -32012

end JsonRpc

/-- The controllers, and what the handler does not see of the machine. -/
structure Devices (ω : Type) where
  controllers : List RGBController
  world : ω

/-- Work of the profile manager. It fails by an exception with its `what()`, or by an access outside a
buffer, behind which nothing is defined. -/
abbrev Managed (ω : Type) := Changing (Option Bytes) (Devices ω) Unit

structure ProfileManagerInterface (ω : Type) where
  profileList : ω → List Bytes
  saveProfile : Bytes → Bool → Managed ω
  loadProfile : Bytes → Managed ω
  loadSizeFromProfile : Bytes → Managed ω
  deleteProfile : Bytes → Managed ω

/-- Both passes over a profile. -/
def ProfileManagerInterface.loadPasses {ω : Type} (manager : ProfileManagerInterface ω) (name : Bytes) :
    Changing (Option Bytes) (Devices ω) Unit := do
  manager.loadProfile name
  manager.loadSizeFromProfile name

/-- What the handler uses of the resource manager. A rescan runs in the background. -/
structure Resources (ω : Type) where
  rescanRunning : ω → Bool
  launchRescan : ω → ω
  webSocketServer : Bool

/-- What the handler is built with, and the texts of others that its replies have in them: the version of
the build, and the `what()` of the exceptions of the JSON library and of a vector. -/
structure Environment (ω : Type) extends JsonRpc.Platform where
  resourceManager : Option (Resources ω)
  profileManager : Option (ProfileManagerInterface ω)
  versionString : Bytes
  jsonWhat : Nat → Bytes → Json → Devices ω → Bytes
  vectorTooLong : Bytes

structure JSONRPCHandler (ω : Type) where
  devices : Devices ω
  rescanInProgress : Bool
  shutdownRequested : Bool

namespace JSONRPCHandler
open JsonRpc
variable {ω α : Type}

/-! ### Methods -/

def onControllers (m : Control (List RGBController) α) : Control (JSONRPCHandler ω) α :=
  within (fun h => h.devices.controllers)
    (fun cs h => { h with devices := { h.devices with controllers := cs } }) m

def managed (m : Managed ω) : Control (JSONRPCHandler ω) Unit := fun h =>
  let (result, devices) := m h.devices
  let thrown : Option Bytes → Stop
    | some what => .exception what
    | none => .outside
  (result.mapError thrown, { h with devices })

/-- `WebSocketServer::BroadcastNotification`, up to the clients that it is sent to. -/
def broadcastNotification (event : String) (data : Json) : Handled Unit :=
  let notification := Json.object [(ascii "jsonrpc", .string (ascii "2.0")),
    (ascii "method", .string (ascii "notification")),
    (ascii "params", .object [(ascii "event", .string (ascii event)), (ascii "data", data)])]
  if notification.dumps then return () else throw (.typeError 316)

/-- The JSON-RPC result with a message. -/
def messageResult (success : Bool) (message : String) : Json :=
  .object [(ascii "success", .boolean success), (ascii "message", .string (ascii message))]

section
variable (env : Environment ω)

/-- `JSONRPCHandler::RescanDevices`. -/
def rescanDevices : Control (JSONRPCHandler ω) Json := do
  let h ← get
  match env.resourceManager with
  | some resources =>
      if h.rescanInProgress && resources.rescanRunning h.devices.world then
        return messageResult false "Rescan already in progress"
      else
        let world := resources.launchRescan h.devices.world
        set { h with devices := { h.devices with world }, rescanInProgress := true }
        return messageResult true "Rescan started"
  | none =>
      set { h with rescanInProgress := false }
      return messageResult true "Rescan started"

/-- The clients are told of a profile, if there is a server. -/
def notifyProfile (event : String) (name : Bytes) : Handled Unit :=
  match env.resourceManager with
  | some resources =>
      if resources.webSocketServer then
        broadcastNotification event (.object [(ascii "profileName", .string name)])
      else return ()
  | none => return ()

/-- `JSONRPCHandler::GetProfiles`. -/
def getProfiles : Control (JSONRPCHandler ω) Json := do
  let h ← get
  let profiles := match env.profileManager with
    | some manager => manager.profileList h.devices.world
    | none => []
  return .object [(ascii "profiles", .array (profiles.map Json.string))]

/-- `JSONRPCHandler::SaveProfile`. What the manager answers is not looked at. -/
def saveProfile (params : Json) : Control (JSONRPCHandler ω) Json := do
  let (name, includeSizes) ← handled (saveParams params)
  match env.profileManager with
  | some manager =>
      managed (manager.saveProfile name includeSizes)
      handled (notifyProfile env "profileSaved" name)
      return success
  | none => handled (refuse errProfileSaveFailed "Profile manager not initialized")

/-- The manager, and the name when it is in the manager's list. -/
def findProfile (params : Json) (h : JSONRPCHandler ω) :
    Handled (ProfileManagerInterface ω × Bytes) := do
  let name ← profileName params
  match env.profileManager with
  | some manager =>
      if name ∈ manager.profileList h.devices.world then return (manager, name)
      else throw (.error errProfileNotFound (ascii "Profile not found: " ++ name))
  | none => refuse errProfileNotFound "Profile manager not initialized"

/-- `JSONRPCHandler::LoadProfile`. -/
def loadProfile (params : Json) : Control (JSONRPCHandler ω) Json := do
  let (manager, name) ← handled (findProfile env params (← get))
  managed (manager.loadPasses name)
  handled (notifyProfile env "profileLoaded" name)
  return success

/-- `JSONRPCHandler::DeleteProfile`. -/
def deleteProfile (params : Json) : Control (JSONRPCHandler ω) Json := do
  let (manager, name) ← handled (findProfile env params (← get))
  managed (manager.deleteProfile name)
  return success

/-- `JSONRPCHandler::GetProtocolVersion`. -/
def getProtocolVersion : Json :=
  .object [(ascii "protocolVersion", .string (ascii "1.0")), (ascii "jsonrpcVersion", .string (ascii "2.0"))]

/-- `JSONRPCHandler::GetServerInfo`. -/
def getServerInfo : Json :=
  .object [(ascii "serverVersion", .string env.versionString),
    (ascii "protocolVersion", .string (ascii "1.0")), (ascii "sdkVersion", .string (ascii "1.0")),
    (ascii "capabilities", .array (["deviceManagement", "colorControl", "modeControl", "zoneManagement",
      "profileManagement", "eventNotifications"].map fun capability => Json.string (ascii capability)))]

/-- `JSONRPCHandler::ShutdownServer`. -/
def shutdownServer (clientIsLoopback : Bool) : Control (JSONRPCHandler ω) Json := do
  if clientIsLoopback then
    modify fun h => { h with shutdownRequested := true }
    return messageResult true "Shutdown scheduled"
  else
    handled (refuse errOperationNotPermitted "Shutdown is only permitted from loopback clients")

/-- `JSONRPCHandler::GetPlugins`. -/
def getPlugins : Json := .object [(ascii "plugins", .array [])]

/-- `JSONRPCHandler::CallPlugin`. -/
def callPlugin (params : Json) : Handled Json := do
  params.require ["pluginName", "method", "params"] "Missing required parameters: pluginName, method, params"
  refuse errPluginNotFound "Plugin support not yet implemented"

end

/-! ### The dispatcher -/

inductive Method where
  | getControllers
  | getControllerCount
  | getControllerData
  | getControllerInfo
  | rescanDevices
  | control (method : ControlMethod)
  | getProfiles
  | saveProfile
  | loadProfile
  | deleteProfile
  | getProtocolVersion
  | getServerInfo
  | getClients
  | shutdownServer
  | getPlugins
  | callPlugin
  deriving DecidableEq, Repr

/-- `JSONRPCProtocol::Methods`. -/
def methods : List (String × Method) :=
  [("device.getControllers", .getControllers), ("device.getControllerCount", .getControllerCount),
    ("device.getControllerData", .getControllerData), ("device.getControllerInfo", .getControllerInfo),
    ("device.rescan", .rescanDevices), ("device.setLEDColor", .control .setLEDColor),
    ("device.setZoneColor", .control .setZoneColor),
    ("device.setZoneMultipleLed", .control .setZoneMultipleLed),
    ("device.setMultipleZoneMultipleLed", .control .setMultipleZoneMultipleLed),
    ("device.setAllColors", .control .setAllColors),
    ("device.setMultipleColors", .control .setMultipleColors),
    ("device.setKeyColor", .control .setKeyColor), ("device.setMode", .control .setMode),
    ("device.setCustomMode", .control .setCustomMode), ("device.updateMode", .control .updateMode),
    ("device.getZones", .control .getZones), ("device.resizeZone", .control .resizeZone),
    ("zone.clearSegments", .control .clearSegments), ("zone.addSegment", .control .addSegment),
    ("profile.getProfiles", .getProfiles), ("profile.saveProfile", .saveProfile),
    ("profile.loadProfile", .loadProfile), ("profile.deleteProfile", .deleteProfile),
    ("server.getProtocolVersion", .getProtocolVersion), ("server.getServerInfo", .getServerInfo),
    ("server.getClients", .getClients), ("server.shutdown", .shutdownServer),
    ("plugin.getPlugins", .getPlugins), ("plugin.callPlugin", .callPlugin)]

def findMethod (name : Bytes) : Option Method :=
  (methods.find? fun method => ascii method.1 = name).map Prod.snd

variable (env : Environment ω)

def call (params : Json) (clientIsLoopback : Bool) : Method → Control (JSONRPCHandler ω) Json
  | .getControllers => onControllers (getControllers env.vectorTooLong)
  | .getControllerCount => onControllers getControllerCount
  | .getControllerData => onControllers (getControllerData env.vectorTooLong params)
  | .getControllerInfo => onControllers (getControllerInfo params)
  | .rescanDevices => rescanDevices env
  | .control method => onControllers (callControl env.toPlatform params method)
  | .getProfiles => getProfiles env
  | .saveProfile => saveProfile env params
  | .loadProfile => loadProfile env params
  | .deleteProfile => deleteProfile env params
  | .getProtocolVersion => return getProtocolVersion
  | .getServerInfo => return getServerInfo env
  | .getClients => return getClients
  | .shutdownServer => shutdownServer clientIsLoopback
  | .getPlugins => return getPlugins
  | .callPlugin => handled (callPlugin params)

/-- `JSONRPCHandler::CallMethod`. -/
def callMethod (name : Bytes) (params : Json) (clientIsLoopback : Bool) : Control (JSONRPCHandler ω) Json :=
  match findMethod name with
  | some method => call env params clientIsLoopback method
  | none => handled (throw (.error methodNotFound (ascii "Method not found: " ++ name)))

/-- The reply of a method or the `what()` of its exception. There is no state behind an access outside a
vector. -/
def answer (name : Bytes) (params : Json) (h : JSONRPCHandler ω) :
    Except Stop Json × JSONRPCHandler ω → Except Bytes Json × Option (JSONRPCHandler ω)
  | (.ok reply, h') => (.ok reply, some h')
  | (.error (.failure (.error code message)), h') => (.ok (createError code message), some h')
  | (.error (.failure (.typeError id)), h') => (.error (env.jsonWhat id name params h.devices), some h')
  | (.error (.exception what), h') => (.error what, some h')
  | (.error .outside, _) => (.ok .null, none)

/-- The methods as the request handler calls them. -/
def answering : CallMethod (Option (JSONRPCHandler ω)) := fun name params clientIsLoopback state =>
  match state with
  | some h => answer env name params h (callMethod env name params clientIsLoopback h)
  | none => (.ok .null, none)

end JSONRPCHandler
end SyncRGB
