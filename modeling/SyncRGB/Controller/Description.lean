import SyncRGB.ByteCodec.Writer
import SyncRGB.Controller.Types

/-! The controller description of the SDK protocol and of profile files:
`GetDeviceDescription` sizes, allocates and fills a buffer in two passes,
`ReadDeviceDescription` decodes one. Both follow the protocol version `v`. -/
namespace SyncRGB
open ByteCodec

/-- `(unsigned short)strlen(s) + 1`, kept in an `unsigned short`. -/
def len16 (s : Bytes) : Nat := (strlen s % 2 ^ 16 + 1) % 2 ^ 16

/-- `(unsigned short)xs.size()`. -/
def count16 (n : Nat) : Nat := n % 2 ^ 16

/-- The `unsigned short` matrix length: two dimensions and the map, or 0 without a map. -/
def Zone.matrixLen (z : Zone) : Nat :=
  match z.matrixMap with
  | none => 0
  | some m => (2 * 4 + (m.height * m.width).toNat * 4) % 2 ^ 16

/-! ### First pass: the size -/

def Mode.size (v : Nat) (m : Mode) : Nat :=
  len16 m.name + 2 + 4 + 4 + 4 + 4 + (if 3 ≤ v then 4 + 4 else 0) + 4 + 4 + 4 +
    (if 3 ≤ v then 4 else 0) + 4 + 4 + 2 + count16 m.colors.length * 4

/-- The size pass counts a segment name with its full length. -/
def Segment.size (s : Segment) : Nat := 2 + (strlen s.name + 1) + 4 + 4 + 4

def Zone.size (v : Nat) (z : Zone) : Nat :=
  len16 z.name + 2 + 4 + 4 + 4 + 4 + 2 + z.matrixLen +
    (if 4 ≤ v then 2 + (z.segments.map Segment.size).sum else 0) + (if 5 ≤ v then 4 else 0)

def Led.size (l : Led) : Nat := len16 l.name + 2 + 4

/-- An alternate name is counted with its full length. -/
def altNameSize (s : Bytes) : Nat := 2 + (strlen s + 1)

namespace RGBController

def sentModes (c : RGBController) : List Mode := c.modes.take (count16 c.modes.length)
def sentZones (c : RGBController) : List Zone := c.zones.take (count16 c.zones.length)
def sentLeds (c : RGBController) : List Led := c.leds.take (count16 c.leds.length)
def sentColors (c : RGBController) : List RGBColor := c.colors.take (count16 c.colors.length)

/-- The sum that the first pass builds up, before it is kept in 32 bits. -/
def sizeSum (v : Nat) (c : RGBController) : Nat :=
  4 + 4 + (len16 c.name + 2) + (if 1 ≤ v then len16 c.vendor + 2 else 0) +
    (len16 c.description + 2) + (len16 c.version + 2) + (len16 c.serial + 2) +
    (len16 c.location + 2) + 2 + 4 + (c.sentModes.map (Mode.size v)).sum + 2 +
    (c.sentZones.map (Zone.size v)).sum + 2 + (c.sentLeds.map Led.size).sum +
    (if 5 ≤ v then 2 + (c.ledAltNames.map altNameSize).sum else 0) + (if 5 ≤ v then 4 else 0) +
    2 + count16 c.colors.length * 4

/-- `data_size`, an `unsigned int`. -/
def dataSize (v : Nat) (c : RGBController) : Nat := c.sizeSum v % 2 ^ 32

end RGBController

/-! ### Second pass: the stores -/

/-- A length and the text; `strcpy` copies all of the text, the cursor moves by the length. -/
def putString (s : Bytes) : List Put := [Put.u16 (len16 s), Put.strcpy s (len16 s)]

def Mode.puts (v : Nat) (m : Mode) : List Put :=
  putString m.name ++ [Put.i32 m.value, Put.u32 m.flags, Put.u32 m.speedMin, Put.u32 m.speedMax] ++
  sincePuts 3 v [Put.u32 m.brightnessMin] ++ sincePuts 3 v [Put.u32 m.brightnessMax] ++
  [Put.u32 m.colorsMin, Put.u32 m.colorsMax, Put.u32 m.speed] ++
  sincePuts 3 v [Put.u32 m.brightness] ++ [Put.u32 m.direction, Put.u32 m.colorMode] ++
  [Put.u16 (count16 m.colors.length)] ++
  (m.colors.take (count16 m.colors.length)).flatMap fun x => [Put.u32 x]

def Segment.puts (s : Segment) : List Put :=
  putString s.name ++ [Put.i32 s.type, Put.u32 s.startIdx, Put.u32 s.ledsCount]

/-- Dimensions and cells, written only when the 16-bit matrix length is nonzero. -/
def Zone.matrixPuts (z : Zone) : List Put :=
  match z.matrixMap with
  | none => []
  | some m =>
      if 0 < z.matrixLen then
        [Put.u32 m.height, Put.u32 m.width] ++ m.map.toList.flatMap fun x => [Put.u32 x]
      else []

/-- Below version 5 an effects-only zone is presented as a fixed zone of one LED. -/
def Zone.sentSize (v : Nat) (z : Zone) (field : UInt32) : UInt32 :=
  if z.effectsOnly ∧ v < 5 then 1 else field

def Zone.sentSegments (z : Zone) : List Segment := z.segments.take (count16 z.segments.length)

def Zone.puts (v : Nat) (z : Zone) : List Put :=
  putString z.name ++ [Put.i32 z.type, Put.u32 (z.sentSize v z.ledsMin),
    Put.u32 (z.sentSize v z.ledsMax), Put.u32 (z.sentSize v z.ledsCount)] ++
  [Put.u16 z.matrixLen] ++ z.matrixPuts ++
  sincePuts 4 v (Put.u16 (count16 z.segments.length) :: z.sentSegments.flatMap Segment.puts) ++
  sincePuts 5 v [Put.u32 z.flags]

def Led.puts (l : Led) : List Put := putString l.name ++ [Put.u32 l.value]

namespace RGBController

/-- Everything behind the leading size field. -/
def bodyPuts (v : Nat) (c : RGBController) : List Put :=
  [Put.i32 c.type] ++ putString c.name ++ sincePuts 1 v (putString c.vendor) ++
  putString c.description ++ putString c.version ++ putString c.serial ++ putString c.location ++
  [Put.u16 (count16 c.modes.length), Put.i32 c.activeMode] ++ c.sentModes.flatMap (Mode.puts v) ++
  [Put.u16 (count16 c.zones.length)] ++ c.sentZones.flatMap (Zone.puts v) ++
  [Put.u16 (count16 c.leds.length)] ++ c.sentLeds.flatMap Led.puts ++
  [Put.u16 (count16 c.colors.length)] ++ (c.sentColors.flatMap fun x => [Put.u32 x]) ++
  sincePuts 5 v (Put.u16 (count16 c.ledAltNames.length) :: c.ledAltNames.flatMap putString) ++
  sincePuts 5 v [Put.u32 c.flags]

def puts (v : Nat) (c : RGBController) : List Put :=
  Put.copy (le 4 (c.dataSize v)) :: c.bodyPuts v

/-- `new unsigned char[n]`: the memory found there is arbitrary. -/
def alloc (memory : Nat → UInt8) (n : Nat) : Bytes := (List.range n).map memory

/-- `RGBController::GetDeviceDescription`; `none` when a store leaves the allocated buffer. -/
def getDeviceDescription (memory : Nat → UInt8) (v : Nat) (c : RGBController) : Option Bytes :=
  (fill (c.puts v) (alloc memory (c.dataSize v)) 0).map Prod.fst

end RGBController

/-! ### Decoding -/

open Reader

/-- The fields of a mode behind its name. Below version 3 the brightness of `m` stays. -/
def readModeFields (v : Nat) (m : Mode) (name : Bytes) : Reader Mode := do
  let value ← i32
  let flags ← u32
  let speedMin ← u32
  let speedMax ← u32
  let brightnessMin ← since 3 v u32 m.brightnessMin
  let brightnessMax ← since 3 v u32 m.brightnessMax
  let colorsMin ← u32
  let colorsMax ← u32
  let speed ← u32
  let brightness ← since 3 v u32 m.brightness
  let direction ← u32
  let colorMode ← u32
  let numColors ← u16
  let colors ← many numColors u32
  return { name, value, flags, speedMin, speedMax, brightnessMin, brightnessMax, colorsMin,
           colorsMax, speed, brightness, direction, colorMode, colors }

/-- Read a mode over `m`. -/
def readModeOver (v : Nat) (m : Mode) : Reader Mode := do
  let name ← string
  readModeFields v m name

def readMode (v : Nat) : Reader Mode := readModeOver v Mode.new

/-- The map block is allocated and filled for the 32-bit product of the dimensions. -/
def readMatrixMap : Reader MatrixMap := do
  let height ← u32
  let width ← u32
  let map ← vector u32 (height * width).toNat
  return { height, width, map }

def readMatrix (len : Nat) : Reader (Option MatrixMap) :=
  if 0 < len then do return some (← readMatrixMap) else return none

def readSegment : Reader Segment := do
  let name ← string
  let type ← i32
  let startIdx ← u32
  let ledsCount ← u32
  return { name, type, startIdx, ledsCount }

def readSegments : Reader (List Segment) := do
  let numSegments ← u16
  many numSegments readSegment

def readZone (v : Nat) : Reader Zone := do
  let name ← string
  let type ← i32
  let ledsMin ← u32
  let ledsMax ← u32
  let ledsCount ← u32
  let matrixLen ← u16
  let matrixMap ← readMatrix matrixLen
  let segments ← since 4 v readSegments Zone.new.segments
  let flags ← since 5 v u32 Zone.new.flags
  return { Zone.new with name, type, ledsMin, ledsMax, ledsCount, matrixMap, segments, flags }

def readLed : Reader Led := do
  let name ← string
  let value ← u32
  return { name, value }

def readAltNames : Reader (List Bytes) := do
  let numAltNames ← u16
  many numAltNames string

/-- `RGBController::ReadDeviceDescription`, run on the controller `c`. Lists are appended to. -/
def readDeviceDescription (v : Nat) (c : RGBController) : Reader RGBController := do
  skip 4
  let type ← i32
  let name ← string
  let vendor ← since 1 v string c.vendor
  let description ← string
  let version ← string
  let serial ← string
  let location ← string
  let numModes ← u16
  let activeMode ← i32
  let modes ← many numModes (readMode v)
  let numZones ← u16
  let zones ← many numZones (readZone v)
  let numLeds ← u16
  let leds ← many numLeds readLed
  let numColors ← u16
  let colors ← many numColors u32
  let altNames ← since 5 v readAltNames []
  let flags ← since 5 v u32 c.flags
  return RGBController.setupColors
    { name, vendor, description, version, serial, location, type, activeMode, flags
      leds := c.leds ++ leds
      zones := c.zones ++ zones
      modes := c.modes ++ modes
      colors := c.colors ++ colors
      ledAltNames := c.ledAltNames ++ altNames }

end SyncRGB
