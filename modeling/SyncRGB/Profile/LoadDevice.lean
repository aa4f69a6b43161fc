import Mathlib.Data.List.Infix
import SyncRGB.Profile.ProfileFile

/-! Loading saved controllers into those that are there: the match by identity, the sizes pass and the
settings pass of `LoadDeviceFromListWithOptions`. -/
namespace SyncRGB
open ByteCodec

/-- The text behind the last `", "`, as `rfind` and `substr` take it. -/
def behindLastComma : Bytes → Option Bytes
  | [] => none
  | b :: rest =>
      match behindLastComma rest with
      | some address => some address
      | none => if [44, 32] <+: b :: rest then some (rest.drop 1) else none

/-- `"HID: "` and `"I2C: "`. -/
def hidPrefix : Bytes := [72, 73, 68, 58, 32]
def i2cPrefix : Bytes := [73, 50, 67, 58, 32]

/-- The location of a HID device is not compared, that of an I2C device by its address only. -/
def locationCheck (saved loaded : Bytes) : Bool :=
  if hidPrefix <+: loaded then true
  else if i2cPrefix <+: loaded then
    match behindLastComma loaded with
    | none => false
    | some address => address <:+: saved
  else saved = loaded

namespace RGBController

/-- The saved controller is taken for this one. -/
def matchesSaved (saved c : RGBController) : Bool :=
  saved.type = c.type && saved.name = c.name && saved.description = c.description &&
    saved.version = c.version && saved.serial = c.serial && locationCheck saved.location c.location

/-- `ResizeZone` of a device with resizable zones: an index or a size out of range is ignored, another
size is stored and `SetupColors` called. -/
def resizeZone (zone : Nat) (newSize : UInt32) (c : RGBController) : RGBController :=
  match c.zones[zone]? with
  | some z =>
      if z.ledsMin ≤ newSize ∧ newSize ≤ z.ledsMax then
        setupColors { c with zones := c.zones.set zone { z with ledsCount := newSize } }
      else c
  | none => c

end RGBController

/-- The fields that tell whether a saved zone belongs to this one. -/
def Zone.sameSlot (saved z : Zone) : Bool :=
  saved.name = z.name && saved.type = z.type && saved.ledsMin = z.ledsMin && saved.ledsMax = z.ledsMax

/-- The fields that tell whether a saved mode belongs to this one. The brightness range is not compared. -/
def Mode.sameSlot (saved m : Mode) : Bool :=
  saved.name = m.name && saved.value = m.value && saved.flags = m.flags &&
    saved.speedMin = m.speedMin && saved.speedMax = m.speedMax && saved.colorsMin = m.colorsMin &&
    saved.colorsMax = m.colorsMax

/-- The settings of a mode from a saved one. -/
def Mode.withSettings (saved m : Mode) : Mode :=
  { m with
    speed := saved.speed
    brightness := saved.brightness
    direction := saved.direction
    colorMode := saved.colorMode
    colors := saved.colors }

namespace ProfileManager
open RGBController

/-- A size that differs is set through the device. -/
def loadZoneCount (saved : Zone) (zone : Nat) (c : RGBController) : RGBController :=
  match c.zones[zone]? with
  | some z => if saved.ledsCount ≠ z.ledsCount then c.resizeZone zone saved.ledsCount else c
  | none => c

/-- Segments are replaced when their number differs. -/
def loadZoneSegments (saved : Zone) (zone : Nat) (c : RGBController) : RGBController :=
  match c.zones[zone]? with
  | some z =>
      if saved.segments.length ≠ z.segments.length then
        { c with zones := c.zones.set zone { z with segments := saved.segments } }
      else c
  | none => c

def loadZone (saved : Zone) (zone : Nat) (c : RGBController) : RGBController :=
  match c.zones[zone]? with
  | some z =>
      if saved.sameSlot z then loadZoneSegments saved zone (loadZoneCount saved zone c) else c
  | none => c

def loadZones : List Zone → Nat → RGBController → RGBController
  | [], _, c => c
  | saved :: rest, zone, c => loadZones rest (zone + 1) (loadZone saved zone c)

/-- Update zone sizes. -/
def loadSizes (saved c : RGBController) : RGBController :=
  if saved.zones.length = c.zones.length then loadZones saved.zones 0 c else c

def loadModes (saved c : RGBController) : RGBController :=
  if saved.modes.length = c.modes.length then
    { c with
      modes := List.zipWith (fun s m => if s.sameSlot m then s.withSettings m else m) saved.modes c.modes
      activeMode := saved.activeMode }
  else c

def loadColors (saved c : RGBController) : RGBController :=
  if saved.colors.length = c.colors.length then { c with colors := saved.colors } else c

/-- What a matching saved controller does to this one. -/
def loadFrom (loadSize loadSettings : Bool) (saved c : RGBController) : RGBController :=
  let c := if loadSize then loadSizes saved c else c
  if loadSettings then loadColors saved (loadModes saved c) else c

/-- `ProfileManager::LoadDeviceFromListWithOptions`: the first unused match is used. The flag stands next
to each saved controller. -/
def loadDeviceFromListWithOptions (loadSize loadSettings : Bool) :
    List (RGBController × Bool) → RGBController →
      Bool × List (RGBController × Bool) × RGBController
  | [], c => (false, [], c)
  | (saved, used) :: rest, c =>
      if !used && saved.matchesSaved c then
        (true, (saved, true) :: rest, loadFrom loadSize loadSettings saved c)
      else
        let (done, rest, c) := loadDeviceFromListWithOptions loadSize loadSettings rest c
        (done, (saved, used) :: rest, c)

/-- The loop of `LoadProfileWithOptions` over the controllers; whether any was loaded comes first. -/
def loadDevices (loadSize loadSettings : Bool) :
    List (RGBController × Bool) → List RGBController → Bool × List RGBController
  | _, [] => (false, [])
  | temps, c :: cs =>
      let (done, temps, c) := loadDeviceFromListWithOptions loadSize loadSettings temps c
      let (more, cs) := loadDevices loadSize loadSettings temps cs
      (done || more, c :: cs)

/-- `ProfileManager::LoadProfileWithOptions` with the saved controllers of the file. -/
def loadProfileWithOptions (loadSize loadSettings : Bool) (saved cs : List RGBController) :
    Bool × List RGBController :=
  loadDevices loadSize loadSettings (saved.map fun c => (c, false)) cs

end ProfileManager
end SyncRGB
