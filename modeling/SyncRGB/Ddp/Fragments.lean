import Mathlib.Logic.Relation
import SyncRGB.ByteCodec.BigEndian
import SyncRGB.Controller.ColorBytes
import SyncRGB.Ddp.Endpoints
import SyncRGB.VectorEdit.CheckedStore
import SyncRGB.VectorEdit.Tiling

/-! The packets in which the DDP controller sends the colors, at an update and to keep the devices awake. -/
namespace SyncRGB
open ByteCodec VectorEdit
namespace DDPController

/-- `DDP_MAX_DATA_SIZE`. -/
def maxDataSize : UInt32 := 1440

/-- The packet of `SendDDPPacket`: the header and `length` bytes of the data. -/
def ddpPacket (sequenceNumber : UInt8) (data : Bytes) (length : UInt16) (offset : UInt32) : Bytes :=
  [0x41, sequenceNumber &&& 0x0F, 1, 1] ++ htonl offset ++ htons length ++ data.take length.toNat

/-- The loop over the LEDs of a device, which ends early behind the last color. It fails where it stores outside of
`device_data`. -/
def storeLeds (colors : List RGBColor) (colorIndex : UInt32) : Nat → UInt32 → Bytes → Option Bytes
  | 0, _, deviceData => some deviceData
  | count + 1, ledIdx, deviceData =>
      match colors[(colorIndex + ledIdx).toNat]? with
      | none => some deviceData
      | some color => do
          let pixelOffset := ledIdx * 3
          let deviceData ← storeAt (pixelOffset + 0).toNat (rgbGetRValue color) deviceData
          let deviceData ← storeAt (pixelOffset + 1).toNat (rgbGetGValue color) deviceData
          let deviceData ← storeAt (pixelOffset + 2).toNat (rgbGetBValue color) deviceData
          storeLeds colors colorIndex count (ledIdx + 1) deviceData

/-- `chunk_size`. -/
def chunkSize (totalBytes bytesSent : UInt32) : UInt32 :=
  if maxDataSize < totalBytes - bytesSent then maxDataSize else totalBytes - bytesSent

theorem chunkSize_toNat {totalBytes bytesSent : UInt32} (more : bytesSent < totalBytes) :
    (chunkSize totalBytes bytesSent).toNat = min 1440 (totalBytes.toNat - bytesSent.toNat) := by
  have below : bytesSent.toNat < totalBytes.toNat := UInt32.lt_iff_toNat_lt.mp more
  have rest : (totalBytes - bytesSent).toNat = totalBytes.toNat - bytesSent.toNat :=
    UInt32.toNat_sub_of_le _ _ (UInt32.le_iff_toNat_le.mpr (Nat.le_of_lt below))
  have size : maxDataSize.toNat = 1440 := rfl
  unfold chunkSize
  split
  · rename_i large
    have above := UInt32.lt_iff_toNat_lt.mp large
    omega
  · rename_i small
    have within := mt UInt32.lt_iff_toNat_lt.mpr small
    omega

theorem toNat_add_chunkSize {totalBytes bytesSent : UInt32} (more : bytesSent < totalBytes) :
    (bytesSent + chunkSize totalBytes bytesSent).toNat =
      bytesSent.toNat + min 1440 (totalBytes.toNat - bytesSent.toNat) := by
  have below : bytesSent.toNat < totalBytes.toNat := UInt32.lt_iff_toNat_lt.mp more
  have bound := totalBytes.toNat_lt
  rw [UInt32.toNat_add, chunkSize_toNat more, Nat.mod_eq_of_lt (by omega)]

section
variable (send : Bytes → Bool) (sequenceNumber : UInt8)

/-- The loop over the packets of a device, up to one that is not sent. -/
def sendChunks (deviceData : Bytes) (totalBytes bytesSent : UInt32) : List Bytes :=
  if _h : bytesSent < totalBytes then
    let chunk := chunkSize totalBytes bytesSent
    let packet := ddpPacket sequenceNumber (deviceData.drop bytesSent.toNat) chunk.toUInt16 bytesSent
    if send packet then packet :: sendChunks deviceData totalBytes (bytesSent + chunk) else []
  else []
  termination_by totalBytes.toNat - bytesSent.toNat
  decreasing_by
    have below : bytesSent.toNat < totalBytes.toNat := UInt32.lt_iff_toNat_lt.mp _h
    have next := toNat_add_chunkSize _h
    omega

end

/-- The loop over the devices, which `UpdateLEDs` and `KeepaliveThreadFunction` have in common: the packets of each
device, up to the first device without a color. -/
def sendColors (send : DDPDevice → Bytes → Bool) (sequenceNumber : UInt8) (colors : List RGBColor) :
    List DDPDevice → UInt32 → Option (List (List Bytes))
  | [], _ => some []
  | dev :: rest, colorIndex =>
      if colors.length ≤ colorIndex.toNat then some []
      else do
        let totalBytes := dev.numLeds * 3
        let deviceData ← storeLeds colors colorIndex dev.numLeds.toNat 0 (List.replicate totalBytes.toNat 0)
        let others ← sendColors send sequenceNumber colors rest (colorIndex + dev.numLeds)
        some (sendChunks (send dev) sequenceNumber deviceData totalBytes 0 :: others)

end DDPController

/-- A controller, which has ports when it has devices. -/
structure DDPController where
  devices : List DDPDevice
  udpPorts : Nat
  opened : devices ≠ [] → udpPorts ≠ 0
  sequenceNumber : UInt8
  lastColors : List RGBColor
  lastUpdateTime : Int
  keepaliveTimeMs : UInt32

namespace DDPController
variable (send : DDPDevice → Bytes → Bool)

/-- `DDPController::UpdateLEDs`: the packets of each device, and the controller afterwards. -/
def updateLEDs (c : DDPController) (colors : List RGBColor) (now : Int) :
    Option (List (List Bytes) × DDPController) :=
  if c.udpPorts = 0 then some ([], c)
  else do
    let sent ← sendColors send c.sequenceNumber colors c.devices 0
    some (sent, { c with lastColors := colors, lastUpdateTime := now, sequenceNumber := c.sequenceNumber + 1 })

/-- A keepalive is sent at that time. -/
def Due (c : DDPController) (now : Int) : Prop :=
  c.keepaliveTimeMs ≠ 0 ∧ c.keepaliveTimeMs.toNat ≤ now - c.lastUpdateTime ∧ c.lastColors ≠ []

instance (c : DDPController) (now : Int) : Decidable (c.Due now) := inferInstanceAs (Decidable (_ ∧ _ ∧ _))

/-- One turn of `DDPController::KeepaliveThreadFunction`. -/
def keepalive (c : DDPController) (now : Int) : Option (List (List Bytes) × DDPController) :=
  if c.Due now then do
    let sent ← sendColors send c.sequenceNumber c.lastColors c.devices 0
    some (sent, { c with lastUpdateTime := now })
  else some ([], c)

def setKeepaliveTime (c : DDPController) (timeMs : UInt32) : DDPController := { c with keepaliveTimeMs := timeMs }

/-- What may happen between two updates. -/
inductive Idle : DDPController → DDPController → Prop where
  | keepalive {c c' : DDPController} {now : Int} {sent : List (List Bytes)} :
      c.keepalive send now = some (sent, c') → Idle c c'
  | setKeepaliveTime (c : DDPController) (timeMs : UInt32) : Idle c (c.setKeepaliveTime timeMs)

/-! ### What the packets are for -/

/-- Offset and data of a packet. -/
def readPacket (packet : Bytes) : Option (Nat × Bytes) :=
  if packet.length = 10 + beValue (slice 8 2 packet) then some (beValue (slice 4 4 packet), packet.drop 10) else none

def fragments (packets : List Bytes) : Option (List (Nat × Bytes)) := packets.mapM readPacket

def ledBytes (colors : List RGBColor) (index : Nat) : Bytes :=
  match colors[index]? with
  | some color => rgbBytes color
  | none => [0, 0, 0]

/-- The bytes of a device whose first LED has the color at `offset`. -/
def deviceBytes (colors : List RGBColor) (offset numLeds : Nat) : Bytes :=
  (List.range numLeds).flatMap fun led => ledBytes colors (offset + led)

/-- The fragments tile the bytes of a device and hold them. -/
structure Reproduces (colors : List RGBColor) (offset : Nat) (dev : DDPDevice) (frs : List (Nat × Bytes)) : Prop where
  size : ∀ fragment ∈ frs, fragment.2.length ≤ 1440
  tiles : Tiles 0 frs (3 * dev.numLeds.toNat)
  written (memory : Bytes) : memory.length = 3 * dev.numLeds.toNat →
    writeBlocks frs memory = some (deviceBytes colors offset dev.numLeds.toNat)

def ledsOf (devices : List DDPDevice) : Nat := (devices.map fun dev => dev.numLeds.toNat).sum

/-- Every device gets its part of the colors. -/
def SendsAll (colors : List RGBColor) (devices : List DDPDevice) (parts : List (List (Nat × Bytes))) : Prop :=
  ∀ k dev, devices[k]? = some dev → Reproduces colors (ledsOf (devices.take k)) dev (parts.getD k [])

/-- Every device gets the part behind those of the devices in front of it, from `offset` on, if there is a color left;
the others get nothing. -/
structure SendsColored (colors : List RGBColor) (offset : Nat) (devices : List DDPDevice)
    (parts : List (List (Nat × Bytes))) : Prop where
  reached (k : Nat) (dev : DDPDevice) : devices[k]? = some dev → offset + ledsOf (devices.take k) < colors.length →
    ∃ frs, parts[k]? = some frs ∧ Reproduces colors (offset + ledsOf (devices.take k)) dev frs
  behind (k : Nat) : colors.length ≤ offset + ledsOf (devices.take k) → parts[k]? = none
  others : parts.length ≤ devices.length

end DDPController
end SyncRGB
