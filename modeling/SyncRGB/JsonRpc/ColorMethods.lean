import SyncRGB.JsonRpc.Control

/-! The color methods of the JSON-RPC handler. -/
namespace SyncRGB
open ByteCodec Effect RGBController
namespace JsonRpc

/-! ### One color -/

section
variable (uninitialized : UInt32)

def ledColorParams (params : Json) : Handled (UInt32 × RGBColor) := do
  params.require ["deviceIndex", "ledIndex", "color"]
    "Missing required parameters: deviceIndex, ledIndex, color"
  let ledIdx ← word "ledIndex" params
  let color ← parseColor uninitialized (← params.get "color")
  return (ledIdx, color)

/-- `JSONRPCHandler::SetLEDColor`. -/
def setLEDColor (params : Json) : Control (List RGBController) Json := do
  let (ledIdx, color) ← handled (ledColorParams uninitialized params)
  let (i, c) ← changing (device params)
  handled (checkLed ledIdx c)
  onDevice i (modify (setLED ledIdx.toNat color))
  return success

def zoneColorParams (params : Json) : Handled (UInt32 × RGBColor) := do
  params.require ["deviceIndex", "zoneIndex", "color"]
    "Missing required parameters: deviceIndex, zoneIndex, color"
  let zoneIdx ← word "zoneIndex" params
  let color ← parseColor uninitialized (← params.get "color")
  return (zoneIdx, color)

def colorZone (zoneIdx : UInt32) (color : RGBColor) : Control RGBController Unit := do
  handled (checkZone zoneIdx (← get))
  storing (setAllZoneLEDs zoneIdx.toNat color)

/-- `JSONRPCHandler::SetZoneColor`. -/
def setZoneColor (params : Json) : Control (List RGBController) Json := do
  let (zoneIdx, color) ← handled (zoneColorParams uninitialized params)
  let (i, _) ← changing (device params)
  onDevice i (colorZone zoneIdx color)
  return success

def allColorsParams (params : Json) : Handled RGBColor := do
  params.require ["deviceIndex", "color"] "Missing required parameters: deviceIndex, color"
  parseColor uninitialized (← params.get "color")

/-- `JSONRPCHandler::SetAllColors`. -/
def setAllColors (params : Json) : Control (List RGBController) Json := do
  let color ← handled (allColorsParams uninitialized params)
  let (i, _) ← changing (device params)
  onDevice i (storing (setAllLEDs color))
  return success

def keyColorParams (params : Json) : Handled (Bytes × RGBColor) := do
  params.require ["deviceIndex", "key", "color"] "Missing required parameters: deviceIndex, key, color"
  let keyName ← (← params.get "key").toBytes
  let color ← parseColor uninitialized (← params.get "color")
  return (keyName, color)

/-- The first LED of that name. -/
def findKey (keyName : Bytes) (c : RGBController) : Handled Nat :=
  match c.leds.findIdx? fun led => led.name = keyName with
  | some ledIdx => return ledIdx
  | none => throw (.error errKeyNameNotFound (ascii "Key name not found: " ++ keyName))

/-- `JSONRPCHandler::SetKeyColor`. -/
def setKeyColor (params : Json) : Control (List RGBController) Json := do
  let (keyName, color) ← handled (keyColorParams uninitialized params)
  let (i, c) ← changing (device params)
  let ledIdx ← handled (findKey keyName c)
  onDevice i (modify (setLED ledIdx color))
  return success

end

/-! ### Many colors -/

def multipleColorsParams (params : Json) : Handled (List Json) := do
  params.require ["deviceIndex", "colors"] "Missing required parameters: deviceIndex, colors"
  match ← params.get "colors" with
  | .array colors => return colors
  | _ => refuse invalidParams "'colors' must be an array"

/-- Items without LED index or color are passed over, LEDs that do not exist as well. -/
def setItemColor (uninitialized : UInt32) (item : Json) : Change RGBController Unit :=
  if item.contains "ledIndex" && item.contains "color" then do
    let ledIdx ← (word "ledIndex" item : Handled UInt32)
    if ledIdx.toNat < (← get).leds.length then
      let color ← (item.get "color" >>= parseColor uninitialized : Handled RGBColor)
      modify (setLED ledIdx.toNat color)
  else return ()

def setItemColors (uninitialized : Nat → UInt32) : Nat → List Json → Change RGBController Unit
  | _, [] => return ()
  | n, item :: rest => do
      setItemColor (uninitialized n) item
      setItemColors uninitialized (n + 1) rest

/-- `JSONRPCHandler::SetMultipleColors`. -/
def setMultipleColors (uninitialized : Nat → UInt32) (params : Json) :
    Control (List RGBController) Json := do
  let colors ← handled (multipleColorsParams params)
  let (i, _) ← changing (device params)
  onDevice i (changing (setItemColors uninitialized 0 colors))
  return success

/-! ### The colors of whole zones -/

def forceParam (params : Json) : Handled Bool :=
  match params.find "Force" with
  | some (.boolean force) => return force
  | some _ => refuse invalidParams "'Force' must be a boolean"
  | none => return false

/-- A channel is checked after its conversion to 32 bits. -/
def rgbChannel : Json → Option UInt32
  | .unsigned n => if n.toUInt32 ≤ 255 then some n.toUInt32 else none
  | _ => none

def rgbArray : Json → Option RGBColor
  | .array [r, g, b] => do
      let red ← rgbChannel r
      let green ← rgbChannel g
      let blue ← rgbChannel b
      return toRGBColor red green blue
  | _ => none

def rgbArrays : List Json → Handled (List RGBColor)
  | [] => return []
  | rgb :: rest =>
      match rgbArray rgb with
      | some color => do
          let colors ← rgbArrays rest
          return color :: colors
      | none =>
          refuse invalidParams "Each color must be an RGB array containing three integers from 0 to 255"

structure ZoneRequest where
  force : Bool
  colors : List RGBColor
  deviceIdx : UInt32
  zoneIdx : UInt32

def zoneMultipleLedParams (params : Json) : Handled ZoneRequest := do
  params.require ["deviceIndex", "zoneIndex", "color"]
    "Missing required parameters: deviceIndex, zoneIndex, color"
  let force ← forceParam params
  match ← params.get "color" with
  | .array (rgb :: rest) => do
      let colors ← rgbArrays (rgb :: rest)
      let deviceIdx ← word "deviceIndex" params
      let zoneIdx ← word "zoneIndex" params
      return { force, colors, deviceIdx, zoneIdx }
  | _ => refuse invalidParams "'color' must be a non-empty array of RGB arrays"

section
variable (resizeZone : Nat → UInt32 → RGBController → RGBController)

/-- The device is asked for a size; it has to have it afterwards. -/
def requestSize (zone n : Nat) : Control RGBController Unit := do
  modify (resizeZone zone (UInt32.ofNat n))
  if ((← get).zones[zone]?.map fun z => z.ledsCount.toNat) = some n then return ()
  else handled (refuse errResizeNotSupported "Zone does not support the requested LED count")

/-- The size of one zone, in `SetZoneMultipleLed`. -/
def sizeZone (force : Bool) (zone n : Nat) : Control RGBController Unit := do
  match (← get).zones[zone]? with
  | some z =>
      if n = z.ledsCount.toNat then return ()
      else if force then modify fun c => (c.forceCount zone (UInt32.ofNat n)).refit
      else if n < z.ledsMin.toNat ∨ z.ledsMax.toNat < n then
        handled (refuse invalidParams "Color count is outside the zone's supported LED count range")
      else requestSize resizeZone zone n
  | none => handled (refuse errZoneIndexOutOfRange "Zone index out of range")

def setZone (request : ZoneRequest) : Control RGBController Unit := do
  sizeZone resizeZone request.force request.zoneIdx.toNat request.colors.length
  storing fun c => c.storeZoneColors request.zoneIdx.toNat request.colors

end

/-- `JSONRPCHandler::SetZoneMultipleLed`. Each device resizes in its own way. -/
def setZoneMultipleLed (driver : Nat → Nat → UInt32 → RGBController → RGBController) (params : Json) :
    Control (List RGBController) Json := do
  let request ← handled (zoneMultipleLedParams params)
  let (i, _) ← changing (deviceAt request.deviceIdx)
  onDevice i (setZone (driver i) request)
  return .object [(ascii "success", .boolean true), (ascii "ledCount", .ofSize request.colors.length),
    (ascii "forced", .boolean request.force)]

structure ZonesRequest where
  force : Bool
  zoneColors : List (List RGBColor)
  deviceIdx : UInt32

def zoneArrays (force : Bool) : List Json → Handled (List (List RGBColor))
  | [] => return []
  | .array colors :: rest =>
      if colors.isEmpty && !force then
        refuse invalidParams "Each zone must contain a non-empty array of RGB arrays"
      else do
        let parsed ← rgbArrays colors
        let others ← zoneArrays force rest
        return parsed :: others
  | _ :: _ =>
      refuse invalidParams
        (if force then "Each zone entry must be an array"
        else "Each zone must contain a non-empty array of RGB arrays")

def multipleZoneMultipleLedParams (params : Json) : Handled ZonesRequest := do
  params.require ["deviceIndex", "color"] "Missing required parameters: deviceIndex, color"
  let force ← forceParam params
  match ← params.get "color" with
  | .array (colors :: rest) => do
      let zoneColors ← zoneArrays force (colors :: rest)
      let deviceIdx ← word "deviceIndex" params
      return { force, zoneColors, deviceIdx }
  | _ => refuse invalidParams "'color' must be a non-empty array of zone color arrays"

section
variable (resizeZone : Nat → UInt32 → RGBController → RGBController)

def checkZoneNumber (force : Bool) (given zones : Nat) : Handled Unit :=
  if given > zones ∨ (force = false ∧ given ≠ zones) then
    refuse invalidParams
      (if force then "The number of zone color arrays cannot exceed the device zone count"
      else "The number of zone color arrays must match the device zone count")
  else return ()

/-- Every size that differs has to be in the range of its zone. -/
def checkCounts : List (List RGBColor) → List Zone → Handled Unit
  | colors :: rest, z :: zs =>
      if colors.length ≠ z.ledsCount.toNat ∧
          (colors.length < z.ledsMin.toNat ∨ z.ledsMax.toNat < colors.length) then
        refuse invalidParams "Color count is outside a zone's supported LED count range"
      else checkCounts rest zs
  | _, _ => return ()

/-- A size that differs is requested. -/
def sizeUnlessSame (zone n : Nat) : Control RGBController Unit := do
  if ((← get).zones[zone]?.map fun z => z.ledsCount.toNat) = some n then return ()
  else requestSize resizeZone zone n

def requestSizes : Nat → List (List RGBColor) → Control RGBController Unit
  | _, [] => return ()
  | zone, colors :: rest => do
      sizeUnlessSame resizeZone zone colors.length
      requestSizes (zone + 1) rest

/-- The sizes of the zones, in `SetMultipleZoneMultipleLed`. -/
def sizeZones (force : Bool) (given : List (List RGBColor)) : Control RGBController Unit := do
  let c ← get
  handled (checkZoneNumber force given.length c.zones.length)
  if force then storing (forceSizes given)
  else do
    handled (checkCounts given c.zones)
    requestSizes resizeZone 0 given

def setZones (request : ZonesRequest) : Control RGBController Unit := do
  sizeZones resizeZone request.force request.zoneColors
  storing (storeZones 0 request.zoneColors)

end

/-- `JSONRPCHandler::SetMultipleZoneMultipleLed`. -/
def setMultipleZoneMultipleLed (driver : Nat → Nat → UInt32 → RGBController → RGBController)
    (params : Json) : Control (List RGBController) Json := do
  let request ← handled (multipleZoneMultipleLedParams params)
  let (i, _) ← changing (deviceAt request.deviceIdx)
  onDevice i (setZones (driver i) request)
  let ledCount (colors : List RGBColor) : Json :=
    if colors = [] then .null else .ofSize colors.length
  return .object [(ascii "success", .boolean true),
    (ascii "zoneCount", .ofSize request.zoneColors.length),
    (ascii "ledCounts", .array (request.zoneColors.map ledCount)),
    (ascii "forced", .boolean request.force)]

end JsonRpc
end SyncRGB
