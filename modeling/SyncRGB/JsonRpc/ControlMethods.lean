import SyncRGB.JsonRpc.ColorMethods
import SyncRGB.JsonRpc.Reports
import SyncRGB.JsonRpc.ZoneMethods

/-! The color, mode and zone methods of the JSON-RPC handler by name. -/
namespace SyncRGB
open ByteCodec Effect RGBController
namespace JsonRpc

/-- What a method depends on beside its parameters and the controllers: how each device resizes a zone, and
what an uninitialized variable holds. -/
structure Platform where
  driver : Nat → Nat → UInt32 → RGBController → RGBController
  uninitialized : Nat → UInt32
  uninitializedType : Int32

inductive ControlMethod where
  | setLEDColor
  | setZoneColor
  | setZoneMultipleLed
  | setMultipleZoneMultipleLed
  | setAllColors
  | setMultipleColors
  | setKeyColor
  | setMode
  | setCustomMode
  | updateMode
  | getZones
  | resizeZone
  | clearSegments
  | addSegment
  deriving DecidableEq, Repr

/-- A mode method is answered with the success alone. -/
def modeMethod (m : Change (List RGBController) Unit) : Control (List RGBController) Json := do
  changing m
  return success

/-- The part of `JSONRPCHandler::CallMethod` for these methods. -/
def callControl (p : Platform) (params : Json) : ControlMethod → Control (List RGBController) Json
  | .setLEDColor => setLEDColor (p.uninitialized 0) params
  | .setZoneColor => setZoneColor (p.uninitialized 0) params
  | .setZoneMultipleLed => setZoneMultipleLed p.driver params
  | .setMultipleZoneMultipleLed => setMultipleZoneMultipleLed p.driver params
  | .setAllColors => setAllColors (p.uninitialized 0) params
  | .setMultipleColors => setMultipleColors p.uninitialized params
  | .setKeyColor => setKeyColor (p.uninitialized 0) params
  | .setMode => modeMethod (setMode params)
  | .setCustomMode => modeMethod (setCustomMode params)
  | .updateMode => modeMethod (updateMode p.uninitialized params)
  | .getZones => getZones params
  | .resizeZone => resizeZone p.driver params
  | .clearSegments => clearSegments params
  | .addSegment => addSegment p.uninitializedType params

end JsonRpc
end SyncRGB
