import SyncRGB.ByteCodec.Bytes
import SyncRGB.VectorEdit.Grouping

/-! The lists into which the detector sorts the E1.31 devices, one controller for each, and the universes that such a
controller packs its channels into. -/
namespace SyncRGB
open ByteCodec VectorEdit

structure E131Device where
  ip : Bytes
  numLeds : UInt32
  startUniverse : UInt32
  startChannel : UInt32
  universeSize : UInt32
  deriving DecidableEq

/-- The device before its settings are read. -/
def E131Device.cleared : E131Device where
  ip := []
  numLeds := 0
  startUniverse := 1
  startChannel := 1
  universeSize := 512

namespace E131

/-- `dev_end` and `list_end`. -/
def endUniverse (dev : E131Device) : UInt32 := dev.startUniverse + (dev.startChannel + 3 * dev.numLeds - 2) / 512

def overlap (dev listed : E131Device) : Bool :=
  dev.ip == listed.ip && !(endUniverse dev < listed.startUniverse || endUniverse listed < dev.startUniverse)

/-- `DetectE131Controllers`: each device goes to the first list with a device that it overlaps, or to a new one. -/
def deviceLists (devices : List E131Device) : List (List E131Device) := groups overlap devices

/-- The two places where the channels are compared in `float`: the number of universes, rounded up, and the last channel
of a universe. -/
structure FloatOps where
  ceilQuotient (channels universeSize : UInt32) : UInt32
  atMost (channelIdx universeSize : UInt32) : Bool

variable (ops : FloatOps)

def totalUniverses (dev : E131Device) : UInt32 :=
  ops.ceilQuotient (dev.numLeds * 3 + dev.startChannel) dev.universeSize

/-- The universes that the loops over `total_universes` go through. -/
def universesOf (dev : E131Device) : List UInt32 :=
  (List.range (totalUniverses ops dev).toNat).map fun univIdx => dev.startUniverse + UInt32.ofNat univIdx

/-- A universe that has a packet already gets no other one. -/
def addUniverse (universes : List UInt32) (univ : UInt32) : List UInt32 :=
  if univ ∈ universes then universes else universes ++ [univ]

/-- The universes of the packets that `RGBController_E131` makes, and sends at each update. -/
def universes (devices : List E131Device) : List UInt32 := (devices.flatMap (universesOf ops)).foldl addUniverse []

/-- The destination of all packets of a controller. -/
def destination (devices : List E131Device) : Option Bytes := devices.head?.map E131Device.ip

/-! ### Packing -/

structure Packing where
  channelIdx : UInt32
  ledIdx : Nat
  rgbIdx : Fin 3
  done : Bool

/-- One turn of the loop over the channels, behind the store. -/
def Packing.next (numLeds : Nat) (p : Packing) : Packing :=
  let ledIdx := if p.rgbIdx = 2 then p.ledIdx + 1 else p.ledIdx
  { channelIdx := p.channelIdx + 1, ledIdx, rgbIdx := p.rgbIdx + 1, done := decide (numLeds ≤ ledIdx) }

/-- In front of the first color of a device. -/
def Packing.start (channelIdx : UInt32) : Packing := ⟨channelIdx, 0, 0, false⟩

/-- A bound for the stores that are still to come. -/
def Packing.left (numLeds : Nat) (p : Packing) : Nat :=
  if p.done then 0 else 3 * (numLeds - p.ledIdx) + 3 - p.rgbIdx.val

theorem Packing.left_next {numLeds : Nat} {p : Packing} (open_ : p.done = false) :
    (p.next numLeds).left numLeds < p.left numLeds := by
  obtain ⟨channelIdx, ledIdx, rgbIdx, done⟩ := p
  cases open_
  have below := rgbIdx.isLt
  simp only [Packing.left, Packing.next, Bool.false_eq_true, if_false, decide_eq_true_eq]
  by_cases last : rgbIdx = 2
  · subst last
    rw [if_pos rfl]
    show (if numLeds ≤ ledIdx + 1 then 0 else 3 * (numLeds - (ledIdx + 1)) + 3 - 0) < 3 * (numLeds - ledIdx) + 3 - 2
    split <;> omega
  · have forward : (rgbIdx + 1).val = rgbIdx.val + 1 := Fin.val_add_one_of_lt (Fin.lt_last_iff_ne_last.mpr last)
    rw [forward, if_neg last]
    split <;> omega

/-- The channels that are stored in one universe, and where the packing goes on. -/
def packUniverse (dev : E131Device) (p : Packing) : List UInt32 × Packing :=
  if _h : p.done = false ∧ ops.atMost p.channelIdx dev.universeSize = true then
    let (channels, last) := packUniverse dev (p.next dev.numLeds.toNat)
    (p.channelIdx :: channels, last)
  else ([], p)
  termination_by p.left dev.numLeds.toNat
  decreasing_by exact Packing.left_next _h.1

/-- The loop over the universes of a device. Each has a packet, and the next one is packed from its first channel on. -/
def packUniverses (dev : E131Device) : List UInt32 → Packing → List (UInt32 × UInt32)
  | [], _ => []
  | univ :: rest, p =>
      let (channels, last) := packUniverse ops dev p
      channels.map (fun channel => (univ, channel)) ++ packUniverses dev rest { last with channelIdx := 1 }

/-- The universes and channels in which `DeviceUpdateLEDs` stores the colors of a device. -/
def packed (dev : E131Device) : List (UInt32 × UInt32) :=
  packUniverses ops dev (universesOf ops dev) ⟨dev.startChannel, 0, 0, false⟩

end E131
end SyncRGB
