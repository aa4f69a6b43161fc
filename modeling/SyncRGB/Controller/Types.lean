import SyncRGB.ByteCodec.Reader

/-! The data of an RGB controller: modes, LEDs, zones with their segments and
matrix maps, and the color buffer the zones point into. -/
namespace SyncRGB
open ByteCodec

abbrev RGBColor := UInt32

structure Mode where
  name : Bytes
  value : Int32
  flags : UInt32
  speedMin : UInt32
  speedMax : UInt32
  brightnessMin : UInt32
  brightnessMax : UInt32
  colorsMin : UInt32
  colorsMax : UInt32
  speed : UInt32
  brightness : UInt32
  direction : UInt32
  colorMode : UInt32
  colors : List RGBColor
  deriving DecidableEq

/-- `mode::mode()`. -/
def Mode.new : Mode where
  name := []
  value := 0
  flags := 0
  speedMin := 0
  speedMax := 0
  brightnessMin := 0
  brightnessMax := 0
  colorsMin := 0
  colorsMax := 0
  speed := 0
  brightness := 0
  direction := 0
  colorMode := 0
  colors := []

structure Led where
  name : Bytes
  value : UInt32
  deriving DecidableEq

/-- The map pointer addresses a block of `height * width` cells, the product taken in 32 bits. -/
structure MatrixMap where
  height : UInt32
  width : UInt32
  map : List.Vector UInt32 (height * width).toNat
  deriving DecidableEq

structure Segment where
  name : Bytes
  type : Int32
  startIdx : UInt32
  ledsCount : UInt32
  deriving DecidableEq

/-- `leds` and `colors` are NULL or point at an index of the controller's vectors. -/
structure Zone where
  name : Bytes
  type : Int32
  leds : Option Nat
  colors : Option Nat
  startIdx : UInt32
  ledsCount : UInt32
  ledsMin : UInt32
  ledsMax : UInt32
  matrixMap : Option MatrixMap
  segments : List Segment
  flags : UInt32
  deriving DecidableEq

/-- `zone::zone()`. -/
def Zone.new : Zone where
  name := []
  type := 0
  leds := none
  colors := none
  startIdx := 0
  ledsCount := 0
  ledsMin := 0
  ledsMax := 0
  matrixMap := none
  segments := []
  flags := 0

/-- `ZONE_FLAG_RESIZE_EFFECTS_ONLY` is bit 0 of the zone flags. -/
def Zone.effectsOnly (z : Zone) : Bool := z.flags &&& 1 != 0

structure RGBController where
  name : Bytes
  vendor : Bytes
  description : Bytes
  version : Bytes
  serial : Bytes
  location : Bytes
  leds : List Led
  zones : List Zone
  modes : List Mode
  colors : List RGBColor
  type : Int32
  activeMode : Int32
  ledAltNames : List Bytes
  flags : UInt32
  deriving DecidableEq

/-- `RGBController::RGBController()`. The constructor leaves `type` as it finds it. -/
def RGBController.new (type : Int32) : RGBController where
  name := []
  vendor := []
  description := []
  version := []
  serial := []
  location := []
  leds := []
  zones := []
  modes := []
  colors := []
  type := type
  activeMode := 0
  ledAltNames := []
  flags := 0

/-- `RGBController::GetLEDsInZone`. An effects-only zone counts as at most one LED. -/
def Zone.getLEDsInZone (z : Zone) : UInt32 :=
  if z.effectsOnly then if z.ledsCount > 1 then 1 else z.ledsCount else z.ledsCount

namespace RGBController

/-- The running `unsigned int` total of the LED counts. -/
def totalLedCount (zones : List Zone) : UInt32 :=
  zones.foldl (fun total z => total + z.getLEDsInZone) 0

/-- `std::vector<RGBColor>::resize`. -/
def resizeColors (colors : List RGBColor) (n : Nat) : List RGBColor :=
  colors.take n ++ List.replicate (n - colors.length) 0

/-- Point each zone at its part of the LED and color vectors. -/
def setupZones (numLeds numColors : Nat) : UInt32 → List Zone → List Zone
  | _, [] => []
  | total, z :: zs =>
      let count := z.getLEDsInZone
      { z with
        startIdx := total
        colors := if 0 < numColors ∧ 0 < count then some total.toNat else none
        leds := if 0 < numLeds ∧ 0 < count then some total.toNat else none } ::
      setupZones numLeds numColors (total + count) zs

/-- `RGBController::SetupColors`. -/
def setupColors (c : RGBController) : RGBController :=
  let colors := resizeColors c.colors (totalLedCount c.zones).toNat
  { c with colors, zones := setupZones c.leds.length colors.length 0 c.zones }

end RGBController
end SyncRGB
