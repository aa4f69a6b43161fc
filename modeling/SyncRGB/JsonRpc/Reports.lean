import SyncRGB.JsonRpc.Control

/-! The JSON-RPC methods that report controllers, and what they report. -/
namespace SyncRGB
open ByteCodec Effect RGBController
namespace JsonRpc

/-- A color in its channels, as `RGBGetRValue` and its companions take them. -/
def colorToJSON (color : RGBColor) : Json :=
  .object [(ascii "red", .ofUInt32 (color &&& 0xFF)), (ascii "green", .ofUInt32 (color >>> 8 &&& 0xFF)),
    (ascii "blue", .ofUInt32 (color >>> 16 &&& 0xFF))]

/-- `ZONE_TYPE_MATRIX`. -/
def zoneTypeMatrix : Int32 := 2

/-- The first cell of the map with that LED, row by row. The offset is taken in 32 bits. -/
def findCell (m : MatrixMap) (zoneLedIdx : UInt32) : Option (Nat × Nat) :=
  (List.range m.height.toNat).findSome? fun y =>
    ((List.range m.width.toNat).find? fun x =>
      m.map.toList[(UInt32.ofNat y * m.width + UInt32.ofNat x).toNat]? = some zoneLedIdx).map fun x => (x, y)

/-- The position of a LED in the first matrix zone that has a cell for it. The end of the zone is taken in
32 bits. -/
def ledPosition (c : RGBController) (ledIdx : UInt32) : Option (Nat × Nat) :=
  c.zones.findSome? fun z =>
    if z.type ≠ zoneTypeMatrix ∨ ledIdx < z.startIdx ∨ z.startIdx + z.ledsCount ≤ ledIdx then none
    else z.matrixMap.bind (findCell · (ledIdx - z.startIdx))

/-- `JSONRPCHandler::LEDToJSON`. -/
def ledToJSON (c : RGBController) (led : Led) (ledIdx : Nat) : Json :=
  let position :=
    match ledPosition c (UInt32.ofNat ledIdx) with
    | some (x, y) => [(ascii "position", Json.array [.ofSize x, .ofSize y])]
    | none => []
  .object ([(ascii "name", .string led.name), (ascii "protocolAddress", .ofInt32 (.ofNat ledIdx))] ++ position)

/-- `JSONRPCHandler::ModeToJSON`. -/
def modeToJSON (m : Mode) : Json :=
  .object [(ascii "name", .string m.name), (ascii "value", .ofInt32 m.value),
    (ascii "flags", .ofUInt32 m.flags), (ascii "speedMin", .ofUInt32 m.speedMin),
    (ascii "speedMax", .ofUInt32 m.speedMax), (ascii "brightnessMin", .ofUInt32 m.brightnessMin),
    (ascii "brightnessMax", .ofUInt32 m.brightnessMax), (ascii "colorsMin", .ofUInt32 m.colorsMin),
    (ascii "colorsMax", .ofUInt32 m.colorsMax), (ascii "speed", .ofUInt32 m.speed),
    (ascii "brightness", .ofUInt32 m.brightness), (ascii "direction", .ofUInt32 m.direction),
    (ascii "colorMode", .ofUInt32 m.colorMode), (ascii "colors", .array (m.colors.map colorToJSON))]

def matrixMapToJSON : Option MatrixMap → Json
  | some m =>
      .object [(ascii "height", .ofUInt32 m.height), (ascii "width", .ofUInt32 m.width),
        (ascii "map", .array (m.map.toList.map Json.ofUInt32))]
  | none => .null

def segmentToJSON (s : Segment) : Json :=
  .object [(ascii "name", .string s.name), (ascii "start", .ofUInt32 s.startIdx),
    (ascii "length", .ofUInt32 s.ledsCount)]

/-- `JSONRPCHandler::ZoneToJSON`. -/
def zoneToJSON (z : Zone) : Json :=
  .object [(ascii "name", .string z.name), (ascii "type", .ofInt32 z.type),
    (ascii "ledsMin", .ofUInt32 z.ledsMin), (ascii "ledsMax", .ofUInt32 z.ledsMax),
    (ascii "ledsCount", .ofUInt32 z.ledsCount), (ascii "matrixMap", matrixMapToJSON z.matrixMap),
    (ascii "segments", .array (z.segments.map segmentToJSON))]

/-- `modes_array[controller->active_mode]["name"]`. An index behind the end fills the array up with nulls.
Minus one becomes the largest size, and the array is cleared in front of the access; smaller ones are
refused by the vector. -/
def activeModeName {σ : Type} (vectorTooLong : Bytes) (c : RGBController) : Control σ Json :=
  if 0 ≤ c.activeMode then
    return match c.modes[c.activeMode.toInt.toNat]? with
      | some m => .string m.name
      | none => .null
  else if c.activeMode = -1 then throw .outside
  else throw (.exception vectorTooLong)

/-- `JSONRPCHandler::ControllerToJSON`. -/
def controllerToJSON {σ : Type} (vectorTooLong : Bytes) (c : RGBController) : Control σ Json := do
  let activeModeName ← activeModeName vectorTooLong c
  return .object [(ascii "name", .string c.name), (ascii "vendor", .string c.vendor),
    (ascii "description", .string c.description), (ascii "type", .ofInt32 c.type),
    (ascii "location", .string c.location), (ascii "serial", .string c.serial),
    (ascii "ledCount", .ofSize c.leds.length), (ascii "zoneCount", .ofSize c.zones.length),
    (ascii "modeCount", .ofSize c.modes.length), (ascii "activeMode", .ofInt32 c.activeMode),
    (ascii "colors", .array (c.colors.map colorToJSON)),
    (ascii "leds", .array (c.leds.mapIdx fun ledIdx led => ledToJSON c led ledIdx)),
    (ascii "modes", .array (c.modes.map modeToJSON)), (ascii "activeModeName", activeModeName)]

def deviceIndexParam (params : Json) : Handled Unit :=
  params.require ["deviceIndex"] "Missing 'deviceIndex' parameter"

section
variable (vectorTooLong : Bytes)

/-- `JSONRPCHandler::GetControllers`. -/
def getControllers : Control (List RGBController) Json := do
  let controllers ← (← get).mapM (controllerToJSON vectorTooLong)
  return .object [(ascii "controllers", .array controllers)]

/-- `JSONRPCHandler::GetControllerCount`. -/
def getControllerCount : Control (List RGBController) Json := do
  return .object [(ascii "count", .ofSize (← get).length)]

/-- `JSONRPCHandler::GetControllerData`. -/
def getControllerData (params : Json) : Control (List RGBController) Json := do
  handled (deviceIndexParam params)
  let (_, c) ← changing (device params)
  let controller ← controllerToJSON vectorTooLong c
  return .object [(ascii "controller", controller)]

end

/-- `JSONRPCHandler::GetControllerInfo`. -/
def getControllerInfo (params : Json) : Control (List RGBController) Json := do
  handled (deviceIndexParam params)
  let (_, c) ← changing (device params)
  return .object [(ascii "name", .string c.name), (ascii "vendor", .string c.vendor),
    (ascii "description", .string c.description), (ascii "type", .ofInt32 c.type),
    (ascii "location", .string c.location), (ascii "serial", .string c.serial)]

/-- `JSONRPCHandler::GetZones`. -/
def getZones (params : Json) : Control (List RGBController) Json := do
  handled (deviceIndexParam params)
  let (_, c) ← changing (device params)
  return .object [(ascii "zones", .array (c.zones.map zoneToJSON))]

end JsonRpc
end SyncRGB
