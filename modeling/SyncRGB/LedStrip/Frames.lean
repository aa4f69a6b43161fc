import SyncRGB.ByteCodec.BigEndian
import SyncRGB.Controller.ColorBytes
import SyncRGB.VectorEdit.CheckedStore
import SyncRGB.VectorEdit.Tiling

/-! What `LEDStripController` sends for the colors of a strip, and the layouts that its comments give. -/
namespace SyncRGB
open ByteCodec VectorEdit

inductive LedProtocol where
  | keyboardVisualizer
  | adalight
  | tpm2
  | basicI2C
  deriving DecidableEq, Repr

namespace LEDStripController

/-- `new unsigned char[size]`: what the bytes hold is not known. -/
def newBuffer (fresh : Nat → UInt8) (size : UInt32) : Bytes := (List.range size.toNat).map fresh

/-- The loop over the colors, whose bytes go behind the `base` bytes of the header. It fails where it stores outside of
the buffer. -/
def copyColors (base : UInt32) : List RGBColor → UInt32 → Bytes → Option Bytes
  | [], _, serialBuf => some serialBuf
  | color :: rest, colorIdx, serialBuf => do
      let colorOffset := colorIdx * 3
      let serialBuf ← storeAt (base + colorOffset).toNat (rgbGetRValue color) serialBuf
      let serialBuf ← storeAt (base + 1 + colorOffset).toNat (rgbGetGValue color) serialBuf
      let serialBuf ← storeAt (base + 2 + colorOffset).toNat (rgbGetBValue color) serialBuf
      copyColors base rest (colorIdx + 1) serialBuf

/-- The checksum of the Keyboard Visualizer frame. -/
def byteSum (bytes : Bytes) : UInt16 := bytes.foldl (fun sum byte => sum + byte.toUInt16) 0

/-- A store at an index of type `int`. -/
def storeAtInt (i : Int) (byte : UInt8) (serialBuf : Bytes) : Option Bytes :=
  if i < 0 then none else storeAt i.toNat byte serialBuf

section
variable (fresh : Nat → UInt8) (numLeds : Int32) (colors : List RGBColor)

def payloadSize : UInt32 := UInt32.ofNat (colors.length * 3)

def setLEDsKeyboardVisualizer : Option Bytes := do
  let packetSize := payloadSize colors + 3
  let serialBuf ← storeAt 0x00 0xAA (newBuffer fresh packetSize)
  let serialBuf ← copyColors 0x01 colors 0 serialBuf
  let sum := byteSum (serialBuf.take (payloadSize colors + 1).toNat)
  let serialBuf ← storeAtInt (numLeds.toInt * 3 + 1) (sum >>> 8).toUInt8 serialBuf
  storeAtInt (numLeds.toInt * 3 + 2) (sum &&& 0x00FF).toUInt8 serialBuf

def setLEDsAdalight : Option Bytes := do
  let ledCount := UInt32.ofNat colors.length
  let packetSize := ledCount * 3 + 6
  let msb := (ledCount >>> 8).toUInt8
  let lsb := (ledCount &&& 0xFF).toUInt8
  let serialBuf ← storeAt 0x00 0x41 (newBuffer fresh packetSize)
  let serialBuf ← storeAt 0x01 0x64 serialBuf
  let serialBuf ← storeAt 0x02 0x61 serialBuf
  let serialBuf ← storeAt 0x03 msb serialBuf
  let serialBuf ← storeAt 0x04 lsb serialBuf
  let serialBuf ← storeAt 0x05 (msb ^^^ lsb ^^^ 0x55) serialBuf
  copyColors 0x06 colors 0 serialBuf

def setLEDsTPM2 : Option Bytes := do
  let packetSize := payloadSize colors + 5
  let serialBuf ← storeAt 0x00 0xC9 (newBuffer fresh packetSize)
  let serialBuf ← storeAt 0x01 0xDA serialBuf
  let serialBuf ← storeAt 0x02 (payloadSize colors >>> 8).toUInt8 serialBuf
  let serialBuf ← storeAt 0x03 (payloadSize colors &&& 0xFF).toUInt8 serialBuf
  let serialBuf ← storeAt (packetSize - 1).toNat 0x36 serialBuf
  copyColors 0x04 colors 0 serialBuf

end

/-- The loop over the colors with the block behind it: the blocks with their start indices. -/
def writeColors : List RGBColor → (index offset : UInt8) → Bytes → Option (List (UInt8 × Bytes))
  | [], index, offset, serialBuf => some (if 0 < index then [(offset, serialBuf.take index.toNat)] else [])
  | color :: rest, index, offset, serialBuf => do
      let serialBuf ← storeAt (index.toNat + 0) (rgbGetRValue color) serialBuf
      let serialBuf ← storeAt (index.toNat + 1) (rgbGetGValue color) serialBuf
      let serialBuf ← storeAt (index.toNat + 2) (rgbGetBValue color) serialBuf
      let index := index + 3
      if 30 ≤ index then do
        let blocks ← writeColors rest 0 (offset + 30) serialBuf
        some ((offset, serialBuf.take 30) :: blocks)
      else writeColors rest index offset serialBuf

/-- The blocks of `SetLEDsBasicI2C`, and the byte that it writes behind them. -/
def setLEDsBasicI2C (fresh : Nat → UInt8) (colors : List RGBColor) : Option (List (UInt8 × Bytes) × UInt8) := do
  let blocks ← writeColors colors 0 0 (newBuffer fresh 30)
  some (blocks, 0xFF)

/-! ### The layouts -/

/-- The data between the start byte and the checksum of all bytes in front of it. -/
def readKeyboardVisualizer : Bytes → Option Bytes
  | [] => none
  | start :: rest =>
      let n := rest.length - 2
      if start = 0xAA ∧ 2 ≤ rest.length ∧ beValue (rest.drop n) = (byteSum (start :: rest.take n)).toNat then
        some (rest.take n)
      else none

def readAdalight : Bytes → Option Bytes
  | a :: d :: a' :: msb :: lsb :: checksum :: data =>
      if [a, d, a'] = [0x41, 0x64, 0x61] ∧ checksum = msb ^^^ lsb ^^^ 0x55 ∧ data.length = 3 * beValue [msb, lsb] then
        some data
      else none
  | _ => none

def readTPM2 : Bytes → Option Bytes
  | start :: type :: msb :: lsb :: rest =>
      if [start, type] = [0xC9, 0xDA] ∧ rest.length = beValue [msb, lsb] + 1 ∧ rest.getLast? = some 0x36 then
        some rest.dropLast
      else none
  | _ => none

/-- A frame is built inside its buffer and is read as the bytes of the colors. -/
def Reads (read : Bytes → Option Bytes) (colors : List RGBColor) (frame : Option Bytes) : Prop :=
  frame.bind read = some (rgbStream colors)

/-- The blocks with the places where they are written. -/
def placed (blocks : List (UInt8 × Bytes)) : List (Nat × Bytes) := blocks.map fun block => (block.1.toNat, block.2)

/-- The blocks are short, and written at their start indices they make up the bytes of the colors. -/
structure Reproduces (colors : List RGBColor) (blocks : List (UInt8 × Bytes)) : Prop where
  size : ∀ block ∈ blocks, block.2.length ≤ 30
  written (memory : Bytes) : memory.length = 3 * colors.length →
    writeBlocks (placed blocks) memory = some (rgbStream colors)

/-- What the strip gets from `SetLEDs` are the colors, whatever a new buffer holds. -/
def Framed (protocol : LedProtocol) (numLeds : Int32) (colors : List RGBColor) : Prop :=
  ∀ fresh, match protocol with
    | .keyboardVisualizer => Reads readKeyboardVisualizer colors (setLEDsKeyboardVisualizer fresh numLeds colors)
    | .adalight => Reads readAdalight colors (setLEDsAdalight fresh colors)
    | .tpm2 => Reads readTPM2 colors (setLEDsTPM2 fresh colors)
    | .basicI2C => ∃ blocks, setLEDsBasicI2C fresh colors = some (blocks, 0xFF) ∧ Reproduces colors blocks

/-- The Keyboard Visualizer frame has its checksum behind the configured LEDs, and the start indices of the blocks have
a byte. -/
def Suits (protocol : LedProtocol) (numLeds : Int32) (colors : List RGBColor) : Prop :=
  match protocol with
  | .keyboardVisualizer => numLeds.toInt = colors.length
  | .adalight => True
  | .tpm2 => True
  | .basicI2C => colors.length ≤ 90

end LEDStripController
end SyncRGB
