import SyncRGB.Controller.ZoneColors
import SyncRGB.JsonRpc.Colors

/-! The options that the command line has for a device, and what `ApplyOptions` makes of them. The calls of the driver
behind the stores are named in the outcome. -/
namespace SyncRGB
open ByteCodec

def toLower (b : UInt8) : UInt8 := if 65 ≤ b && b ≤ 90 then b + 32 else b

/-- `strcasecmp(a, b) == 0` in the classic locale. -/
def strcasecmp (a b : Bytes) : Bool := (cstr a).map toLower = (cstr b).map toLower

namespace Cli

def modeFlagHasSpeed : UInt32 := 1
def modeFlagHasBrightness : UInt32 := 16
def modeFlagHasRandomColor : UInt32 := 128

def modeColorsPerLed : UInt32 := 1
def modeColorsModeSpecific : UInt32 := 2
def modeColorsRandom : UInt32 := 3

/-- A color with its red, green and blue. -/
abbrev Rgb := UInt8 × UInt8 × UInt8

structure DeviceOptions where
  device : Int32
  zone : Int32
  colors : List Rgb
  mode : Bytes
  speed : UInt32
  brightness : UInt32
  randomColors : Bool
  hasOption : Bool

/-- The options before anything is set. -/
def DeviceOptions.new (device : Int32) : DeviceOptions where
  device := device
  zone := -1
  colors := []
  mode := []
  speed := 100
  brightness := 100
  randomColors := false
  hasOption := false

/-- `ParseMode`. A mode that is not found is taken for the first. -/
def parseMode (options : DeviceOptions) (device : RGBController) : UInt32 :=
  if options.mode.length = 0 then device.activeMode.toUInt32
  else
    match device.modes.findIdx? fun m => strcasecmp m.name options.mode with
    | some modeIdx => UInt32.ofNat modeIdx
    | none => 0

/-- The value at a percentage of a range. -/
def scaled (min max percentage : UInt32) : UInt32 := min + (max - min) * percentage / 100

/-- Random colors, where the mode has them. -/
def setRandomColors (options : DeviceOptions) (m : Mode) : Mode :=
  if options.randomColors ∧ m.flags &&& modeFlagHasRandomColor ≠ 0 then { m with colorMode := modeColorsRandom } else m

def setBrightness (options : DeviceOptions) (m : Mode) : Mode :=
  if m.flags &&& modeFlagHasBrightness ≠ 0 then
    { m with brightness := scaled m.brightnessMin m.brightnessMax options.brightness }
  else m

def setSpeed (options : DeviceOptions) (m : Mode) : Mode :=
  if m.flags &&& modeFlagHasSpeed ≠ 0 then { m with speed := scaled m.speedMin m.speedMax options.speed } else m

/-- What is set of the mode in front of the colors. -/
def applyMode (options : DeviceOptions) (m : Mode) : Mode :=
  setSpeed options (setBrightness options (setRandomColors options m))

def Rgb.toColor (color : Rgb) : RGBColor := toRGBColor color.1.toUInt32 color.2.1.toUInt32 color.2.2.toUInt32

/-- The loop over the LEDs, which keeps the index of the color that was set last. -/
def spreadColors (colors : List Rgb) : Nat → Nat → Nat → Option (List RGBColor)
  | 0, _, _ => some []
  | ledCount + 1, ledIdx, lastSetColor => do
      let lastSetColor := if ledIdx < colors.length then ledIdx else lastSetColor
      let color ← colors[lastSetColor]?
      let rest ← spreadColors colors ledCount (ledIdx + 1) lastSetColor
      return color.toColor :: rest

/-- The pointer from which the colors are stored, and their number. -/
def storeTarget (options : DeviceOptions) (device : RGBController) : Option (Option Nat × UInt32) :=
  if options.zone < 0 then some (some 0, UInt32.ofNat device.leds.length)
  else device.zones[sizeT options.zone]?.map fun z => (z.colors, z.ledsCount)

/-- The stores of a mode with a color for each LED: the first slot, and what is stored from there on. -/
def perLedStores (options : DeviceOptions) (device : RGBController) : Option (Nat × List RGBColor) :=
  if options.colors.length = 0 then some (0, [])
  else do
    let (startFrom, ledCount) ← storeTarget options device
    let colors ← spreadColors options.colors ledCount.toNat 0 0
    if colors = [] then return (0, [])
    else return (← startFrom, colors)

/-- How `ApplyOptions` ends: with the process, or with the device's update of its mode and, if so told, of its
LEDs. -/
inductive Applied where
  | exits
  | updates (device : RGBController) (leds : Bool)

/-- A mode is set, and made the active one. -/
def setMode (mode : UInt32) (m : Mode) (device : RGBController) : RGBController :=
  { device with modes := device.modes.set mode.toNat m, activeMode := mode.toInt32 }

/-- The colors, where the mode has any. -/
def applyColors (options : DeviceOptions) (mode : UInt32) (m : Mode) (device : RGBController) : Option Applied :=
  if m.colorMode = modeColorsPerLed then do
    let (start, stores) ← perLedStores options device
    let colors ← storeColors device.colors start stores
    return .updates { setMode mode m device with colors } true
  else if m.colorMode = modeColorsModeSpecific then
    if m.colorsMin.toNat ≤ options.colors.length ∧ options.colors.length ≤ m.colorsMax.toNat then
      some (.updates (setMode mode { m with colors := options.colors.map Rgb.toColor } device) false)
    else some .exits
  else some (.updates (setMode mode m device) false)

/-- `ApplyOptions`; `none` when it accesses something outside of a vector. -/
def applyOptions (options : DeviceOptions) (device : RGBController) : Option Applied := do
  let m ← device.modes[(parseMode options device).toNat]?
  applyColors options (parseMode options device) (applyMode options m) device

end Cli
end SyncRGB
