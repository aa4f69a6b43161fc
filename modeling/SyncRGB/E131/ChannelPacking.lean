import SyncRGB.Controller.ColorBytes
import SyncRGB.E131.SharedUniverses

/-! Where `DeviceUpdateLEDs` stores the bytes of the colors. -/
namespace SyncRGB
open ByteCodec VectorEdit
namespace E131

/-- The two comparisons of channels, taken exactly. -/
def exactOps : FloatOps where
  ceilQuotient channels universeSize := .ofNat ((channels.toNat + universeSize.toNat - 1) / universeSize.toNat)
  atMost channelIdx universeSize := channelIdx ≤ universeSize

/-- `colors[color_idx]`: a negative index lies behind all colors. -/
def readColor (colors : List RGBColor) (colorIdx : Int32) : Option RGBColor :=
  if colorIdx < 0 then none else colors[colorIdx.toInt.toNat]?

/-- The counters of the loop over the channels, with the one that runs over the colors of all devices. -/
structure Cursor extends Packing where
  colorIdx : Int32

/-- A store into `packets[packet_idx].dmp.prop_val[channel_idx]`, without a value where no color is read. -/
structure Store where
  univ : UInt32
  channelIdx : UInt32
  value : Option UInt8
  deriving DecidableEq

def Cursor.value (colors : List RGBColor) (c : Cursor) : Option UInt8 :=
  (readColor colors c.colorIdx).map fun color =>
    match c.rgbIdx with
    | 0 => rgbGetRValue color
    | 1 => rgbGetGValue color
    | 2 => rgbGetBValue color

def Cursor.next (numLeds : Nat) (c : Cursor) : Cursor where
  toPacking := c.toPacking.next numLeds
  colorIdx := if c.rgbIdx.val = 2 then c.colorIdx + 1 else c.colorIdx

section
variable (ops : FloatOps) (colors : List RGBColor) (dev : E131Device)

/-- The loop over the channels of a packet. -/
def fillPacket (univ : UInt32) (c : Cursor) : List Store × Cursor :=
  if _h : c.done = false ∧ ops.atMost c.channelIdx dev.universeSize = true then
    let rest := fillPacket univ (c.next dev.numLeds.toNat)
    (⟨univ, c.channelIdx, c.value colors⟩ :: rest.1, rest.2)
  else ([], c)
  termination_by c.left dev.numLeds.toNat
  decreasing_by exact Packing.left_next _h.1

/-- The loop over the packets, each with the universe that it is for. -/
def fillPackets (univ : UInt32) : List UInt32 → Cursor → List Store × Cursor
  | [], c => ([], c)
  | packet :: rest, c =>
      if c.done = false ∧ packet = univ then
        let filled := fillPacket ops colors dev univ c
        let others := fillPackets univ rest filled.2
        (filled.1 ++ others.1, others.2)
      else fillPackets univ rest c

/-- The loop over the universes of a device. -/
def fillUniverses (packets : List UInt32) : List UInt32 → Cursor → List Store × Cursor
  | [], c => ([], c)
  | univ :: rest, c =>
      let filled := fillPackets ops colors dev univ packets c
      let others := fillUniverses packets rest { filled.2 with channelIdx := 1 }
      (filled.1 ++ others.1, others.2)

def fillDevice (packets : List UInt32) (colorIdx : Int32) : List Store × Cursor :=
  fillUniverses ops colors dev packets (universesOf ops dev) ⟨.start dev.startChannel, colorIdx⟩

end

section
variable (ops : FloatOps) (colors : List RGBColor)

/-- The stores of each device, the colors going on from one device to the next. -/
def fillDevices (packets : List UInt32) : List E131Device → Int32 → List (List Store)
  | [], _ => []
  | dev :: rest, colorIdx =>
      let filled := fillDevice ops colors dev packets colorIdx
      filled.1 :: fillDevices packets rest filled.2.colorIdx

/-- `RGBController_E131::DeviceUpdateLEDs`, up to the sending. -/
def deviceUpdateLEDs (devices : List E131Device) : List (List Store) :=
  fillDevices ops colors (universes ops devices) devices 0

end

/-! ### What the packing is for -/

/-- Universe, channel and byte of each byte of a device's part of the stream. -/
def placed (colors : List RGBColor) (dev : E131Device) (offset i : Nat) : Nat × Nat × Option UInt8 :=
  let behind := dev.startChannel.toNat - 1 + i
  (dev.startUniverse.toNat + behind / dev.universeSize.toNat, 1 + behind % dev.universeSize.toNat,
    (rgbStream colors)[3 * offset + i]?)

/-- The bytes of all devices, the first of which has the color at `offset` for its first LED. -/
def streams (colors : List RGBColor) : Nat → List E131Device → List (List (Nat × Nat × Option UInt8))
  | _, [] => []
  | offset, dev :: rest =>
      (List.range (3 * dev.numLeds.toNat)).map (placed colors dev offset) ::
        streams colors (offset + dev.numLeds.toNat) rest

def Store.view (store : Store) : Nat × Nat × Option UInt8 :=
  (store.univ.toNat, store.channelIdx.toNat, store.value)

/-- A color is read for the store, and the packet has the channel: `prop_val` has 513 bytes. -/
structure Store.Sound (store : Store) : Prop where
  read : store.value.isSome = true
  slot : store.channelIdx.toNat < 513

structure PacksStreams (colors : List RGBColor) (devices : List E131Device) : Prop where
  streams : (deviceUpdateLEDs exactOps colors devices).map (List.map Store.view) = streams colors 0 devices
  sound : ∀ stores ∈ deviceUpdateLEDs exactOps colors devices, ∀ store ∈ stores, store.Sound
  packets : ∀ stores ∈ deviceUpdateLEDs exactOps colors devices, ∀ store ∈ stores,
    store.univ ∈ universes exactOps devices

/-- A universe size and a start channel in it. -/
structure Addressed (dev : E131Device) : Prop where
  size : 1 ≤ dev.universeSize.toNat
  start : 1 ≤ dev.startChannel.toNat
  inside : dev.startChannel.toNat ≤ dev.universeSize.toNat

/-- There are LEDs; their channels can be counted in 32 bits and, from zero on, lie in a packet; and so do their
universes. -/
structure Fits (dev : E131Device) : Prop where
  leds : 1 ≤ dev.numLeds.toNat
  channels : 3 * dev.numLeds.toNat + dev.startChannel.toNat < 2 ^ 32
  slots : dev.universeSize.toNat ≤ 512 ∨ dev.startChannel.toNat - 1 + 3 * dev.numLeds.toNat ≤ 512
  universes :
    dev.startUniverse.toNat + (dev.startChannel.toNat + 3 * dev.numLeds.toNat - 2) / dev.universeSize.toNat < 2 ^ 32

def ledsOf (devices : List E131Device) : Nat := (devices.map fun dev => dev.numLeds.toNat).sum

/-- There is a color for each LED, and all indices of colors are below 2 ^ 31. -/
structure Packable (colors : List RGBColor) (devices : List E131Device) : Prop where
  fits : ∀ dev ∈ devices, Fits dev
  enough : ledsOf devices ≤ colors.length
  indices : ledsOf devices ≤ 2 ^ 31

end E131
end SyncRGB
