import SyncRGB.Settings.JsonFile

/-! The settings file of the service, and the functions that read a setting of it or write the port. -/
namespace SyncRGB
open ByteCodec
namespace Startup

/-- `get<int>`. The cast of a number outside of `int` is up to the implementation. -/
def toInt (outside : Rat → Int32) : Json → Handled Int32
  | .unsigned n => .ok n.toUInt32.toInt32
  | .integer i => .ok i.toInt32
  | .float q =>
      let i := q.num.tdiv q.den
      .ok (if -2 ^ 31 ≤ i ∧ i < 2 ^ 31 then Int32.ofInt i else outside q)
  | .boolean b => .ok (if b then 1 else 0)
  | _ => throw (.typeError 302)

/-- What is parsed of a file; what the parser throws is caught. -/
def parsedFile (parse : JsonParser) : SettingsFile → Json
  | .holds content =>
      match parse content (.object []) with
      | .ok j => j
      | .error _ => .object []
  | _ => .object []

/-- `LoadJsonFile`. -/
def loadJsonFile (parse : JsonParser) (file : SettingsFile) : Json :=
  if (parsedFile parse file).isObject then parsedFile parse file else .object []

/-- The paths that the system gives: `GetServiceSettingsPath`, and `GetDefaultUserConfigurationDirectory` in UTF-8. -/
structure ServicePaths where
  settings : Bytes
  userDirectory : Bytes

/-- `service_settings_path`, and what stands in the files. -/
structure ServiceState where
  settingsPath : Bytes
  files : Bytes → SettingsFile

/-- The path is set when it is first needed. -/
def ServiceState.located (paths : ServicePaths) (s : ServiceState) : ServiceState :=
  if s.settingsPath = [] then { s with settingsPath := paths.settings } else s

/-- `data.value("Service", json::object())`. -/
def serviceSettings (data : Json) : Handled Json := Json.valueOf "Service" pure (.object []) data

section
variable (parse : JsonParser) (outside : Rat → Int32) (paths : ServicePaths)

/-- What `GetConfiguredServicePort` makes of a document. The default of the one setting is the other, which is read
first. -/
def portOf (data : Json) : Handled UInt16 := do
  let service ← serviceSettings data
  if service.isObject then
    let port ← service.valueOf "port" (toInt outside) 6743
    let port ← service.valueOf "websocket_port" (toInt outside) port
    return if 1024 ≤ port.toInt ∧ port.toInt ≤ 65535 then UInt16.ofNat port.toInt.toNat else 6743
  else return 6743

def getConfiguredServicePort (s : ServiceState) : ServiceState × Handled UInt16 :=
  let s := s.located paths
  (s, portOf outside (loadJsonFile parse (s.files s.settingsPath)))

def directoryOf (data : Json) : Handled Bytes := do
  let service ← serviceSettings data
  if service.isObject then
    let configDir ← service.valueOf "configuration_directory" Json.toBytes []
    return if configDir ≠ [] then configDir else paths.userDirectory
  else return paths.userDirectory

/-- The path in UTF-8; texts of a parsed document are in UTF-8. -/
def getConfiguredServiceDirectory (s : ServiceState) : ServiceState × Handled Bytes :=
  let s := s.located paths
  (s, directoryOf paths (loadJsonFile parse (s.files s.settingsPath)))

/-- The document that `SaveConfiguredServicePort` writes. -/
def withPort (port : UInt16) (data : Json) : Handled Json := do
  let service ← serviceSettings data
  let service := if service.isObject then service else .object []
  let service ← service.setKey (ascii "name") (.string (ascii "RGB Server"))
  let service ← service.setKey (ascii "host") (.string (ascii "127.0.0.1"))
  let service ← service.setKey (ascii "port") (.unsigned port.toUInt64)
  let service ← service.setKey (ascii "websocket_port") (.unsigned port.toUInt64)
  let service ← service.setKey (ascii "configuration_directory") (.string paths.userDirectory)
  data.setKey (ascii "Service") service

/-- How far `SaveJsonFile` comes: the directories cannot be created, the file does not open, or it is written. -/
inductive SaveAccess where
  | noDirectory
  | closed
  | opens
  deriving DecidableEq

/-- `SaveJsonFile`, with the file before and after it; `none` when it throws. The file is emptied before the text is
made. -/
def saveJsonFile (dumpText : Json → Bytes) (access : SaveAccess) (data : Json) (file : SettingsFile) :
    SettingsFile × Option Unit :=
  match access with
  | .noDirectory => (file, none)
  | .closed => (file, some ())
  | .opens => if data.dumps then (.holds (dumpText data), some ()) else (.holds [], none)

def saveConfiguredServicePort (dumpText : Json → Bytes) (access : SaveAccess) (port : UInt16) (s : ServiceState) :
    ServiceState × Option Unit :=
  let s := { s with settingsPath := paths.settings }
  match withPort paths port (loadJsonFile parse (s.files paths.settings)) with
  | .ok data =>
      let saved := saveJsonFile dumpText access data (s.files paths.settings)
      ({ s with files := fun path => if path = paths.settings then saved.1 else s.files path }, saved.2)
  | .error _ => (s, none)

end
end Startup
end SyncRGB
